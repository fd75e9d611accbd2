import ClusterSim.Text.Blank
import ClusterSim.Text.Numeral
import Mathlib.Data.List.TakeWhile

/-!
# White space at the ends of a text

What is trimmed is the white space around a text, and all of it: the text in the middle stays
whatever surrounds it, provided that it neither begins nor ends with white space.
-/

namespace ClusterSim.Text

variable {cs text lead trail : List Char}

/-! ### In front of a text -/

theorem dropBlank_cons {c : Char} (h : ¬ isBlank c) (cs : List Char) :
    dropBlank (c :: cs) = c :: cs := List.dropWhile_cons_of_neg h

theorem not_isBlank_of_isDigit {c : Char} (h : isDigit c) : ¬ isBlank c := by
  have hbounds : 48 ≤ c.toNat ∧ c.toNat ≤ 57 := by
    simpa [isDigit, Char.le_def, UInt32.le_iff_toNat_le] using h
  unfold isBlank
  simp only [Bool.or_eq_true, Bool.and_eq_true, decide_eq_true_eq]
  omega

theorem isDigit_of_append_eq_cons {run rest more : List Char} {c : Char} (hne : run ≠ [])
    (h : ∀ other ∈ run, isDigit other) (heq : run ++ rest = c :: more) : isDigit c := by
  cases run with
  | nil => exact absurd rfl hne
  | cons first run => exact (List.cons.inj heq).1 ▸ h first List.mem_cons_self

/-- There is no white space in front of digits. -/
theorem dropBlank_digits {run : List Char} (hne : run ≠ []) (h : ∀ c ∈ run, isDigit c)
    (rest : List Char) : dropBlank (run ++ rest) = run ++ rest := by
  cases run with
  | nil => exact absurd rfl hne
  | cons c more => exact dropBlank_cons (not_isBlank_of_isDigit (h c List.mem_cons_self)) _

theorem dropBlank_append (hlead : ∀ c ∈ lead, isBlank c) (cs : List Char) :
    dropBlank (lead ++ cs) = dropBlank cs :=
  List.dropWhile_append_of_pos hlead

theorem dropBlank_of_head? (h : ∀ c ∈ cs.head?, ¬ isBlank c) : dropBlank cs = cs := by
  cases cs with
  | nil => rfl
  | cons c rest => exact dropBlank_cons (h c rfl) rest

theorem exists_dropBlank (cs : List Char) :
    ∃ lead, (∀ c ∈ lead, isBlank c) ∧ cs = lead ++ dropBlank cs :=
  ⟨cs.takeWhile isBlank, fun _ => List.mem_takeWhile_imp, List.takeWhile_append_dropWhile.symm⟩

/-! ### At both ends -/

/-- Nothing is left of a text exactly if all of it is white space. -/
theorem trimChars_eq_nil_iff : trimChars cs = [] ↔ ∀ c ∈ cs, isBlank c := by
  unfold trimChars dropBlank
  rw [List.reverse_eq_nil_iff, List.dropWhile_eq_nil_iff]
  constructor
  · intro h
    obtain ⟨lead, hlead, heq⟩ := exists_dropBlank cs
    rw [heq]
    intro c hmem
    rcases List.mem_append.1 hmem with hmem | hmem
    · exact hlead c hmem
    · exact h c (List.mem_reverse.2 hmem)
  · intro h c hmem
    exact h c ((List.dropWhile_sublist _).subset (List.mem_reverse.1 hmem))

/-- Only white space is taken away. -/
theorem exists_trimChars (cs : List Char) :
    ∃ lead trail, (∀ c ∈ lead, isBlank c) ∧ (∀ c ∈ trail, isBlank c) ∧
      cs = lead ++ trimChars cs ++ trail := by
  obtain ⟨lead, hlead, heq⟩ := exists_dropBlank cs
  obtain ⟨back, hback, hrest⟩ := exists_dropBlank (dropBlank cs).reverse
  refine ⟨lead, back.reverse, hlead, fun c hmem => hback c (List.mem_reverse.1 hmem), ?_⟩
  have hmiddle : dropBlank cs = trimChars cs ++ back.reverse := by
    rw [trimChars, ← List.reverse_append, ← hrest, List.reverse_reverse]
  rw [List.append_assoc, ← hmiddle]
  exact heq

/-- White space around a text is taken away. -/
theorem trimChars_append (hlead : ∀ c ∈ lead, isBlank c) (htrail : ∀ c ∈ trail, isBlank c)
    (hhead : ∀ c ∈ text.head?, ¬ isBlank c) (hlast : ∀ c ∈ text.getLast?, ¬ isBlank c) :
    trimChars (lead ++ text ++ trail) = text := by
  cases text with
  | nil =>
    rw [trimChars_eq_nil_iff]
    simpa using fun c hmem => hmem.elim (hlead c) (htrail c)
  | cons first rest =>
    have hfront : dropBlank (lead ++ (first :: rest) ++ trail) = (first :: rest) ++ trail := by
      rw [List.append_assoc, dropBlank_append hlead]
      exact dropBlank_of_head? hhead
    have hback : dropBlank (first :: rest).reverse = (first :: rest).reverse := by
      apply dropBlank_of_head?
      rwa [List.head?_reverse]
    rw [trimChars, hfront, List.reverse_append,
      dropBlank_append fun c hmem => htrail c (List.mem_reverse.1 hmem), hback,
      List.reverse_reverse]

/-- A text that neither begins nor ends with white space is what is left exactly if there is nothing
but white space around it. -/
theorem trimChars_eq_iff (hhead : ∀ c ∈ text.head?, ¬ isBlank c)
    (hlast : ∀ c ∈ text.getLast?, ¬ isBlank c) :
    trimChars cs = text ↔ ∃ lead trail, (∀ c ∈ lead, isBlank c) ∧ (∀ c ∈ trail, isBlank c) ∧
      cs = lead ++ text ++ trail := by
  constructor
  · rintro rfl
    exact exists_trimChars cs
  · rintro ⟨lead, trail, hlead, htrail, rfl⟩
    exact trimChars_append hlead htrail hhead hlast

end ClusterSim.Text
