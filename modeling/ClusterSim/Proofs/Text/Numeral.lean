import ClusterSim.Text.Numeral
import Mathlib.Algebra.GroupWithZero.Nat
import Mathlib.Data.Nat.Digits.Defs

/-!
# Numerals are read back

The digits of a number, with any number of zeros in front of them, are read as that number. Decimal
digits are read as the number that they write by their places, and nothing else is read
(`foldDigits_eq_some_iff`).
-/

namespace ClusterSim.Text

variable {base : Nat}

/-! ### Single digits -/

theorem digitValue?_digitChar (hbase : base ≤ 16) {d : Nat} (hd : d < base) :
    digitValue? base (Nat.digitChar d) = some d := by
  have hsixteen : ∀ d < 16, digitValue? 16 (Nat.digitChar d) = some d := by decide
  have hvalue := hsixteen d (by omega)
  unfold digitValue? at hvalue ⊢
  obtain ⟨hraw, -⟩ := Option.filter_eq_some_iff.1 hvalue
  rw [Option.filter_eq_some_iff]
  exact ⟨hraw, by simpa using hd⟩

theorem isDigit_digitChar {d : Nat} (hd : d < 10) : isDigit (Nat.digitChar d) := by
  have hten : ∀ d < 10, isDigit (Nat.digitChar d) = true := by decide
  exact hten d hd

/-! ### Digits of a number -/

/-- What a numeral in the base is made of. -/
theorem exists_of_mem_toDigits (hbase : 1 < base) {n : Nat} {c : Char}
    (hmem : c ∈ Nat.toDigits base n) : ∃ d < base, c = Nat.digitChar d := by
  induction n using Nat.strongRecOn with
  | ind n ih =>
    rw [Nat.toDigits_eq_if hbase] at hmem
    split at hmem
    · rename_i hlt
      exact ⟨n, hlt, List.mem_singleton.1 hmem⟩
    · rename_i hge
      have hquotient : n / base < n := Nat.div_lt_self (by omega) hbase
      rcases List.mem_append.1 hmem with hmem | hmem
      · exact ih (n / base) hquotient hmem
      · exact ⟨n % base, Nat.mod_lt n (by omega), List.mem_singleton.1 hmem⟩

theorem exists_of_mem_zeroPad (hbase : 1 < base) {width n : Nat} {c : Char}
    (hmem : c ∈ zeroPad width (Nat.toDigits base n)) : ∃ d < base, c = Nat.digitChar d := by
  rcases List.mem_append.1 hmem with hmem | hmem
  · exact ⟨0, by omega, List.eq_of_mem_replicate hmem⟩
  · exact exists_of_mem_toDigits hbase hmem

theorem isDigit_of_mem_zeroPad {width n : Nat} {c : Char}
    (hmem : c ∈ zeroPad width (Nat.toDigits 10 n)) : isDigit c := by
  obtain ⟨d, hd, rfl⟩ := exists_of_mem_zeroPad (by omega) hmem
  exact isDigit_digitChar hd

theorem length_zeroPad (width : Nat) (cs : List Char) :
    (zeroPad width cs).length = max width cs.length := by
  rw [zeroPad, List.length_append, List.length_replicate]
  omega

/-- A number that needs no more digits is padded to the width exactly. -/
theorem length_zeroPad_toDigits (hbase : 1 < base) {width n : Nat} (hwidth : 0 < width)
    (hn : n < base ^ width) : (zeroPad width (Nat.toDigits base n)).length = width := by
  have hle := (Nat.length_toDigits_le_iff hbase hwidth).2 hn
  rw [length_zeroPad]
  omega

theorem zeroPad_ne_nil (width n : Nat) : zeroPad width (Nat.toDigits base n) ≠ [] := by
  intro hnil
  exact Nat.toDigits_ne_nil (List.append_eq_nil_iff.1 hnil).2

theorem toList_paddedDecimal (width n : Nat) :
    (paddedDecimal width n).toList = zeroPad width (Nat.toDigits 10 n) :=
  String.toList_ofList

/-! ### Reading -/

theorem foldDigits_append (seen : Nat) (cs more : List Char) :
    foldDigits base seen (cs ++ more) =
      (foldDigits base seen cs).bind fun seen => foldDigits base seen more := by
  induction cs generalizing seen with
  | nil => rfl
  | cons c rest ih =>
    simp only [List.cons_append, foldDigits]
    cases digitValue? base c with
    | none => rfl
    | some d => exact ih (seen * base + d)

theorem foldDigits_digitChar (hbase : base ≤ 16) (seen : Nat) {d : Nat} (hd : d < base) :
    foldDigits base seen [Nat.digitChar d] = some (seen * base + d) := by
  simp only [foldDigits, digitValue?_digitChar hbase hd]

theorem foldDigits_toDigits (hone : 1 < base) (hbase : base ≤ 16) (n : Nat) :
    foldDigits base 0 (Nat.toDigits base n) = some n := by
  induction n using Nat.strongRecOn with
  | ind n ih =>
    rw [Nat.toDigits_eq_if hone]
    split
    · rename_i hlt
      rw [foldDigits_digitChar hbase 0 hlt, Nat.zero_mul, Nat.zero_add]
    · rename_i hge
      have hquotient : n / base < n := Nat.div_lt_self (by omega) hone
      rw [foldDigits_append, ih (n / base) hquotient, Option.bind_some,
        foldDigits_digitChar hbase _ (Nat.mod_lt n (by omega)), Nat.mul_comm, Nat.div_add_mod]

/-- Zeros in front do not count. -/
theorem foldDigits_zeros (hone : 1 < base) (hbase : base ≤ 16) (count : Nat) (cs : List Char) :
    foldDigits base 0 (List.replicate count '0' ++ cs) = foldDigits base 0 cs := by
  induction count with
  | zero => rfl
  | succ count ih =>
    have hzero : digitValue? base '0' = some 0 := digitValue?_digitChar hbase (by omega : 0 < base)
    rw [List.replicate_succ, List.cons_append, foldDigits, hzero]
    simpa using ih

/-- A padded numeral is read as the number that it writes. -/
theorem foldDigits_zeroPad (hone : 1 < base) (hbase : base ≤ 16) (width n : Nat) :
    foldDigits base 0 (zeroPad width (Nat.toDigits base n)) = some n := by
  rw [zeroPad, foldDigits_zeros hone hbase, foldDigits_toDigits hone hbase]

theorem readNat?_zeroPad (hone : 1 < base) (hbase : base ≤ 16) (width n : Nat) :
    readNat? base (zeroPad width (Nat.toDigits base n)) = some n := by
  have hne : (zeroPad width (Nat.toDigits base n)).isEmpty = false := by
    rw [List.isEmpty_eq_false_iff]
    exact zeroPad_ne_nil width n
  rw [readNat?, hne]
  exact foldDigits_zeroPad hone hbase width n

/-- Different numbers have different numerals. -/
theorem decimal_injective : Function.Injective decimal := by
  intro m n h
  have hdigits : Nat.toDigits 10 m = Nat.toDigits 10 n := String.ofList_injective h
  have hread := foldDigits_toDigits (by omega : 1 < 10) (by omega) m
  rw [hdigits, foldDigits_toDigits (by omega) (by omega)] at hread
  exact (Option.some.inj hread).symm

/-! ### Decimal places -/

/-- The number that decimal digits write, the most significant first. -/
def decimalValue (cs : List Char) : Nat :=
  Nat.ofDigits 10 (cs.map fun c => c.toNat - '0'.toNat).reverse

theorem decimalValue_append (cs more : List Char) :
    decimalValue (cs ++ more) = decimalValue cs * 10 ^ more.length + decimalValue more := by
  unfold decimalValue
  rw [List.map_append, List.reverse_append, Nat.ofDigits_append, List.length_reverse,
    List.length_map]
  ring

theorem decimalValue_lt {cs : List Char} (h : ∀ c ∈ cs, isDigit c) :
    decimalValue cs < 10 ^ cs.length := by
  have hvalues : ∀ value ∈ (cs.map fun c => c.toNat - '0'.toNat).reverse, value < 10 := by
    intro value hmem
    obtain ⟨c, hc, rfl⟩ := List.mem_map.1 (List.mem_reverse.1 hmem)
    have hzero : '0'.toNat = 48 := rfl
    have hdigit : '0' ≤ c ∧ c ≤ '9' := by simpa [isDigit] using h c hc
    have hle : c.toNat ≤ 57 := UInt32.le_iff_toNat_le.1 hdigit.2
    omega
  have hlt := Nat.ofDigits_lt_base_pow_length (by omega : 1 < 10) hvalues
  rwa [List.length_reverse, List.length_map] at hlt

theorem digitValue?_eq_some_iff {c : Char} {d : Nat} :
    digitValue? 10 c = some d ↔ isDigit c ∧ d = c.toNat - '0'.toNat := by
  have hzero : '0'.toNat = 48 := rfl
  have hbounds : isDigit c ↔ '0' ≤ c ∧ c ≤ '9' := by simp [isDigit]
  unfold digitValue?
  rw [hbounds, Option.filter_eq_some_iff]
  by_cases hdigit : '0' ≤ c ∧ c ≤ '9'
  · have hle : c.toNat ≤ 57 := UInt32.le_iff_toNat_le.1 hdigit.2
    rw [if_pos hdigit]
    simp only [Option.some.injEq, decide_eq_true_eq, hdigit, true_and]
    omega
  · rw [if_neg hdigit]
    constructor
    · rintro ⟨hvalue, hlt⟩
      simp only [decide_eq_true_eq] at hlt
      split at hvalue
      · have := Option.some.inj hvalue
        omega
      · split at hvalue
        · have := Option.some.inj hvalue
          omega
        · cases hvalue
    · intro h
      exact absurd h.1 hdigit

/-- Decimal digits are read as the number that they write behind those already seen. -/
theorem foldDigits_eq_some_iff {seen n : Nat} {cs : List Char} :
    foldDigits 10 seen cs = some n ↔
      (∀ c ∈ cs, isDigit c) ∧ n = seen * 10 ^ cs.length + decimalValue cs := by
  induction cs generalizing seen with
  | nil =>
    have hnil : decimalValue [] = 0 := rfl
    rw [foldDigits, hnil, List.length_nil, pow_zero, mul_one, add_zero, Option.some.injEq, eq_comm]
    simp
  | cons c rest ih =>
    have hcons : decimalValue (c :: rest) =
        (c.toNat - '0'.toNat) * 10 ^ rest.length + decimalValue rest := by
      have hone : decimalValue [c] = c.toNat - '0'.toNat := Nat.ofDigits_singleton
      rw [← List.singleton_append, decimalValue_append, hone]
    rw [foldDigits]
    cases hvalue : digitValue? 10 c with
    | none =>
      have hdigit : ¬ isDigit c := by
        intro hdigit
        rw [digitValue?_eq_some_iff.2 ⟨hdigit, rfl⟩] at hvalue
        cases hvalue
      simp [hdigit]
    | some d =>
      obtain ⟨hdigit, rfl⟩ := digitValue?_eq_some_iff.1 hvalue
      show foldDigits 10 _ rest = some n ↔ _
      rw [ih, hcons, List.forall_mem_cons, List.length_cons, pow_succ]
      have hsum : (seen * 10 + (c.toNat - '0'.toNat)) * 10 ^ rest.length + decimalValue rest =
          seen * (10 ^ rest.length * 10) +
            ((c.toNat - '0'.toNat) * 10 ^ rest.length + decimalValue rest) := by
        ring
      rw [hsum]
      simp [hdigit]

/-- A padded numeral writes its number. -/
theorem decimalValue_zeroPad (width n : Nat) :
    decimalValue (zeroPad width (Nat.toDigits 10 n)) = n := by
  obtain ⟨-, heq⟩ := foldDigits_eq_some_iff.1 (foldDigits_zeroPad (by omega) (by omega) width n)
  rw [Nat.zero_mul, Nat.zero_add] at heq
  exact heq.symm

end ClusterSim.Text
