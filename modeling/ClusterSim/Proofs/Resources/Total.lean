import ClusterSim.Proofs.Resources
import Mathlib.Tactic.MkIffOfInductiveProp

/-!
# Totals

A sum is built up entry by entry on a copy of its left side and given up at the first overflow. What
comes of it is nevertheless the total of both sides, or none if no value is their total
(`isSum_add?`), and the same holds of sums of sums (`IsSum.bind`) and so of running sums
(`isSum_addAll?`). A total depends neither on the order of its parts nor on how they are bracketed.
Main statement: `addition_is_partial_monoid`.
-/

namespace ClusterSim

namespace Resources

variable {a b sum part total other : Resources} {parts others inner rest : List Resources}
variable {answer reply : Option Resources}

/-! ### Exact sums -/

/-- The exact sum of the amounts of a dimension. -/
def totalAmount (parts : List Resources) (d : String) : Nat :=
  (parts.map fun part => part.amount d).sum

theorem totalAmount_cons (part : Resources) (parts : List Resources) (d : String) :
    totalAmount (part :: parts) d = part.amount d + totalAmount parts d := by
  unfold totalAmount
  rw [List.map_cons, List.sum_cons]

theorem totalAmount_append (parts others : List Resources) (d : String) :
    totalAmount (parts ++ others) d = totalAmount parts d + totalAmount others d := by
  unfold totalAmount
  rw [List.map_append, List.sum_append]

theorem totalAmount_pair (a b : Resources) (d : String) :
    totalAmount [a, b] d = a.amount d + b.amount d := by
  rw [totalAmount_cons, totalAmount_cons]
  rfl

theorem totalAmount_triple (a b c : Resources) (d : String) :
    totalAmount [a, b, c] d = a.amount d + b.amount d + c.amount d := by
  rw [totalAmount_cons, totalAmount_pair, Nat.add_assoc]

/-! ### The total of some parts -/

/-- The value has the dimensions of all parts, also those with an amount of zero, and of each
dimension as much as all parts together. -/
@[mk_iff]
structure IsTotal (total : Resources) (parts : List Resources) : Prop where
  mem_dimensions : ∀ d, d ∈ total.dimensions ↔ ∃ part ∈ parts, d ∈ part.dimensions
  amount_eq : ∀ d, total.amount d = totalAmount parts d

theorem isTotal_empty : empty.IsTotal [] where
  mem_dimensions d := by simp [dimensions, empty, NameMap.names, NameMap.empty]
  amount_eq _ := rfl

theorem isTotal_singleton (part : Resources) : part.IsTotal [part] where
  mem_dimensions d := by simp
  amount_eq d := by simp [totalAmount]

theorem isTotal_pair_iff : sum.IsTotal [a, b] ↔
    (∀ d, d ∈ sum.dimensions ↔ d ∈ a.dimensions ∨ d ∈ b.dimensions) ∧
      ∀ d, sum.amount d = a.amount d + b.amount d := by
  rw [isTotal_iff]
  simp only [totalAmount_pair, List.exists_mem_cons_iff, List.not_mem_nil, false_and, exists_false,
    or_false]

theorem IsTotal.totalAmount_lt (h : total.IsTotal parts) (d : String) :
    totalAmount parts d < UInt64.size := by
  rw [← h.amount_eq]
  exact total.amount_lt d

/-- There is at most one total. -/
theorem IsTotal.eq (h : total.IsTotal parts) (hother : other.IsTotal parts) : total = other := by
  apply ext_amount
  · intro d
    rw [h.mem_dimensions, hother.mem_dimensions]
  · intro d
    rw [h.amount_eq, hother.amount_eq]

theorem IsTotal.perm (h : total.IsTotal parts) (hperm : parts.Perm others) :
    total.IsTotal others where
  mem_dimensions d := by
    rw [h.mem_dimensions]
    simp only [hperm.mem_iff]
  amount_eq d := by
    rw [h.amount_eq]
    exact (hperm.map _).sum_nat

/-- In place of a part its own parts may stand. -/
theorem IsTotal.flatten_iff (h : part.IsTotal inner) :
    total.IsTotal (part :: rest) ↔ total.IsTotal (inner ++ rest) := by
  have hdimensions : ∀ d, (∃ other ∈ part :: rest, d ∈ other.dimensions) ↔
      ∃ other ∈ inner ++ rest, d ∈ other.dimensions := by
    intro d
    rw [List.exists_mem_cons_iff, h.mem_dimensions]
    simp only [List.mem_append, or_and_right, exists_or]
  have hamount : ∀ d, totalAmount (part :: rest) d = totalAmount (inner ++ rest) d := by
    intro d
    rw [totalAmount_cons, totalAmount_append, h.amount_eq]
  rw [isTotal_iff, isTotal_iff]
  simp only [hdimensions, hamount]

/-! ### Sums that may not exist -/

/-- The answer is the total of the parts, or none if no value is. -/
def IsSum (answer : Option Resources) (parts : List Resources) : Prop :=
  ∀ total, answer = some total ↔ total.IsTotal parts

theorem IsTotal.isSum (h : total.IsTotal parts) : IsSum (some total) parts := by
  intro other
  constructor
  · rintro ⟨⟩
    exact h
  · intro hother
    rw [h.eq hother]

theorem IsSum.perm (h : IsSum answer parts) (hperm : parts.Perm others) :
    IsSum answer others := by
  intro total
  rw [h total]
  exact ⟨fun htotal => htotal.perm hperm, fun htotal => htotal.perm hperm.symm⟩

/-- The parts determine the answer. -/
theorem IsSum.eq (h : IsSum answer parts) (hreply : IsSum reply parts) : answer = reply := by
  apply Option.ext
  intro total
  rw [h total, hreply total]

theorem isSum_add? (a b : Resources) : IsSum (a.add? b) [a, b] := by
  cases hsum : a.add? b with
  | some sum =>
    exact (isTotal_pair_iff.2 ⟨mem_dimensions_of_add? hsum, amount_of_add? hsum⟩).isSum
  | none =>
    intro total
    refine ⟨nofun, fun h => ?_⟩
    -- the amounts of a total are in range, so the addition would have found it
    have hfits : ∀ d, a.amount d + b.amount d < UInt64.size := by
      intro d
      rw [← totalAmount_pair]
      exact h.totalAmount_lt d
    have hsome : (a.add? b).isSome := isSome_add?_iff.2 hfits
    rw [hsum] at hsome
    cases hsome

/-- Some parts have a total exactly if their exact sum is below `2 ^ 64` in every dimension. -/
theorem exists_isTotal_iff :
    (∃ total, IsTotal total parts) ↔ ∀ d, totalAmount parts d < UInt64.size := by
  constructor
  · rintro ⟨total, h⟩
    exact h.totalAmount_lt
  · intro h
    induction parts with
    | nil => exact ⟨empty, isTotal_empty⟩
    | cons part rest ih =>
      simp only [totalAmount_cons] at h
      obtain ⟨later, hlater⟩ := ih fun d => Nat.lt_of_le_of_lt (Nat.le_add_left _ _) (h d)
      simp only [← hlater.amount_eq] at h
      obtain ⟨total, hsum⟩ := Option.isSome_iff_exists.1 (isSome_add?_iff.2 h)
      have htotal : total.IsTotal [later, part] :=
        ((isSum_add? part later total).1 hsum).perm (.swap later part [])
      exact ⟨total, (hlater.flatten_iff.1 htotal).perm List.perm_append_comm⟩

/-- There is no answer exactly if some dimension overflows, at whichever step that shows. -/
theorem IsSum.eq_none_iff (h : IsSum answer parts) :
    answer = none ↔ ∃ d, UInt64.size ≤ totalAmount parts d := by
  rw [← not_iff_not, ← ne_eq, Option.ne_none_iff_exists', not_exists]
  simp only [h _, exists_isTotal_iff, Nat.not_le]

/-- An answer goes on as a part of another sum. Amounts are not negative, so parts that have no
total alone have none together with more. -/
theorem IsSum.bind {next : Resources → Option Resources} (h : IsSum answer inner)
    (hnext : ∀ part, IsSum (next part) (part :: rest)) :
    IsSum (answer.bind next) (inner ++ rest) := by
  intro total
  rw [Option.bind_eq_some_iff]
  constructor
  · rintro ⟨part, hpart, htotal⟩
    exact ((h part).1 hpart).flatten_iff.1 ((hnext part total).1 htotal)
  · intro htotal
    have hbelow : ∀ d, totalAmount inner d < UInt64.size := by
      intro d
      have hd := htotal.totalAmount_lt d
      rw [totalAmount_append] at hd
      omega
    obtain ⟨part, hpart⟩ := exists_isTotal_iff.2 hbelow
    exact ⟨part, (h part).2 hpart, (hnext part total).2 (hpart.flatten_iff.2 htotal)⟩

/-! ### Two and three parts -/

theorem add?_comm (a b : Resources) : a.add? b = b.add? a :=
  (isSum_add? a b).eq ((isSum_add? b a).perm (.swap a b []))

theorem empty_add? (a : Resources) : empty.add? a = some a :=
  (isSum_add? empty a a).2 (isTotal_empty.flatten_iff.2 (isTotal_singleton a))

theorem isSum_add?_add? (a b c : Resources) :
    IsSum ((a.add? b).bind fun sum => sum.add? c) [a, b, c] :=
  (isSum_add? a b).bind fun sum => isSum_add? sum c

theorem add?_assoc (a b c : Resources) :
    ((a.add? b).bind fun sum => sum.add? c) = (b.add? c).bind fun sum => a.add? sum := by
  have hright : IsSum ((b.add? c).bind fun sum => a.add? sum) [b, c, a] :=
    (isSum_add? b c).bind fun sum => (isSum_add? a sum).perm (.swap sum a [])
  exact (isSum_add?_add? a b c).eq (hright.perm (List.perm_append_singleton a [b, c]))

/-! ### Running sums -/

/-- Adds resources one after another, until a sum does not exist. -/
def addAll? (start : Resources) (parts : List Resources) : Option Resources :=
  parts.foldlM add? start

theorem isSum_addAll? (start : Resources) (parts : List Resources) :
    IsSum (start.addAll? parts) (start :: parts) := by
  induction parts generalizing start with
  | nil => exact (isTotal_singleton start).isSum
  | cons part rest ih => exact (isSum_add? start part).bind ih

end Resources

/-- Addition of resources is a commutative monoid as far as sums exist, on values in which an
explicit zero counts: it is commutative, the empty value is neutral on both sides, and either way to
bracket three values gives the same answer, which is none exactly if the exact sum reaches `2 ^ 64`
in some dimension. A sum has exactly the dimensions of both sides and the exact sums of their
amounts. So a running sum exists exactly if no dimension overflows in the end, and is the same in
every order, also if it starts from another of the values. -/
theorem addition_is_partial_monoid (a b c : Resources) :
    a.add? b = b.add? a ∧
    a.add? .empty = some a ∧ Resources.empty.add? a = some a ∧
    ((a.add? b).bind fun sum => sum.add? c) = ((b.add? c).bind fun sum => a.add? sum) ∧
    (((a.add? b).bind fun sum => sum.add? c) = none ↔
      ∃ d, UInt64.size ≤ a.amount d + b.amount d + c.amount d) ∧
    (∀ sum, a.add? b = some sum ↔
      (∀ d, d ∈ sum.dimensions ↔ d ∈ a.dimensions ∨ d ∈ b.dimensions) ∧
        ∀ d, sum.amount d = a.amount d + b.amount d) ∧
    ∀ demands : List Resources,
      (a.addAll? demands = none ↔ ∃ d, UInt64.size ≤ Resources.totalAmount (a :: demands) d) ∧
      ∀ start others, (start :: others).Perm (a :: demands) →
        start.addAll? others = a.addAll? demands := by
  refine ⟨a.add?_comm b, ?_, a.empty_add?, a.add?_assoc b c, ?_, fun sum => ?_, fun demands => ?_⟩
  · rw [Resources.add?_comm, Resources.empty_add?]
  · rw [(Resources.isSum_add?_add? a b c).eq_none_iff]
    simp only [Resources.totalAmount_triple]
  · rw [Resources.isSum_add? a b sum, Resources.isTotal_pair_iff]
  · have hsum := a.isSum_addAll? demands
    exact ⟨hsum.eq_none_iff, fun start others hperm =>
      ((start.isSum_addAll? others).perm hperm).eq hsum⟩

/-- One bracketing overflows at once and the other only at its last step. Without the unit that is
too much the three others have a total, which keeps the zeros, and it is the same from another
start. -/
theorem addition_is_partial_monoid_late_overflow :
    let full : Resources := .ofList [("cpu", 18446744073709551615), ("gpu", 0)]
    let unit : Resources := .ofList [("cpu", 1)]
    let disk : Resources := .ofList [("disk", 0), ("memory", 8)]
    let more : Resources := .ofList [("gpu", 2), ("memory", 1)]
    full.add? unit = none ∧ (unit.add? disk).isSome ∧
    ((unit.add? disk).bind fun sum => full.add? sum) = none ∧
    ∃ total, disk.addAll? [more, full] = some total ∧
      total.toList = [("cpu", 18446744073709551615), ("disk", 0), ("gpu", 2), ("memory", 9)] := by
  intro full unit disk more
  let total : Resources :=
    .ofList [("cpu", 18446744073709551615), ("disk", 0), ("gpu", 2), ("memory", 9)]
  have hoverflow : full.add? unit = none := by decide +kernel
  have hsome : (unit.add? disk).isSome := by decide +kernel
  have htotal : full.addAll? [disk, more] = some total := by decide +kernel
  obtain ⟨-, -, -, hassoc, -, -, hsums⟩ := addition_is_partial_monoid full unit disk
  obtain ⟨-, horder⟩ := hsums [disk, more]
  have hperm : [disk, more, full].Perm [full, disk, more] :=
    List.perm_append_singleton full [disk, more]
  refine ⟨hoverflow, hsome, ?_, total, ?_, by decide +kernel⟩
  · rw [← hassoc, hoverflow]
    rfl
  · rw [horder disk [more, full] hperm, htotal]

end ClusterSim
