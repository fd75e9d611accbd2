import ClusterSim.Proofs.Quantity.Notation

/-!
# The amounts of quantities

A text that is a quantity gives the exact value in units of its dimension, rounded up, whenever that
fits 64 bits (`parse_is_exact`): where an integer on the way to it does not fit 128 bits, the value
does not fit 64 bits either. Such a text is refused as out of range, except that a number whose
digits make an integer of more than 128 bits is refused as if it were no number at all
(`refusals_told_apart`).
-/

namespace ClusterSim

namespace Quantity

/-! ### Rounding up -/

theorem ceilDiv_eq_ceil (a : Nat) {b : Nat} (hb : 0 < b) : ceilDiv a b = ⌈(a : ℚ) / b⌉₊ := by
  refine eq_of_forall_ge_iff fun k => ?_
  have hpos : (0 : ℚ) < b := by exact_mod_cast hb
  rw [Nat.ceil_le, div_le_iff₀ hpos, ceilDiv, Nat.div_le_iff_le_mul_add_pred hb]
  norm_cast
  rw [Nat.mul_comm k b]
  omega

/-- A numerator of more than 128 bits gives an amount of more than 64 bits, since the denominators
of quantities are small. -/
theorem size_le_ceilDiv {top bottom : Nat} (htop : wideLimit ≤ top) (hpos : 0 < bottom)
    (hbottom : bottom ≤ 10 ^ 12) : UInt64.size ≤ ceilDiv top bottom := by
  have hsmall : UInt64.size * 10 ^ 12 ≤ wideLimit := by decide
  have hmul : UInt64.size * bottom ≤ UInt64.size * 10 ^ 12 := Nat.mul_le_mul_left _ hbottom
  rw [ceilDiv, Nat.le_div_iff_mul_le hpos]
  omega

theorem unitsOf_pos (dimension : String) : 0 < unitsOf dimension := by
  unfold unitsOf
  split <;> decide

end Quantity

namespace WrittenQuantity

variable {quantity : WrittenQuantity} {raw : String}

/-- The exact value in units of a dimension, rounded up: `cpu` is counted in thousandths. -/
def amount (quantity : WrittenQuantity) (dimension : String) : Nat :=
  ⌈quantity.value * if dimension = Dimension.cpu then 1000 else 1⌉₊

theorem WellFormed.scale_le (h : quantity.WellFormed) : quantity.number.scale ≤ 10 ^ 9 :=
  Nat.pow_le_pow_right (by decide) h.number.length_le

/-- The amount as it is computed, as a quotient of integers. Its numerator is at least the integer
of the digits, and its denominator is small. -/
theorem WellFormed.exists_amount_eq (h : quantity.WellFormed) (dimension : String) :
    ∃ multiplier divisor,
      Quantity.factor? quantity.suffix.toList = some (multiplier, divisor) ∧
      quantity.amount dimension = Quantity.ceilDiv
        (quantity.number.numerator * multiplier * Quantity.unitsOf dimension)
        (quantity.number.scale * divisor) ∧
      quantity.number.numerator ≤
        quantity.number.numerator * multiplier * Quantity.unitsOf dimension ∧
      0 < quantity.number.scale * divisor ∧ quantity.number.scale * divisor ≤ 10 ^ 12 := by
  obtain ⟨multiplier, divisor, hfactor, heq, hmultiplier, hdivisor, hle⟩ :=
    Quantity.exists_factor? h.suffix_mem
  have hbottom : 0 < quantity.number.scale * divisor :=
    Nat.mul_pos quantity.number.scale_pos hdivisor
  refine ⟨multiplier, divisor, hfactor, ?_, ?_, hbottom, ?_⟩
  · have hunits : (Quantity.unitsOf dimension : ℚ) =
        if dimension = Dimension.cpu then 1000 else 1 := by
      unfold Quantity.unitsOf
      split <;> norm_num
    rw [Quantity.ceilDiv_eq_ceil _ hbottom, amount, value, WrittenNumber.value, heq, ← hunits]
    push_cast
    rw [div_mul_div_comm, div_mul_eq_mul_div]
  · rw [Nat.mul_assoc]
    exact Nat.le_mul_of_pos_right _ (Nat.mul_pos hmultiplier (Quantity.unitsOf_pos dimension))
  · calc quantity.number.scale * divisor ≤ 10 ^ 9 * 1000 := Nat.mul_le_mul h.scale_le hle
      _ = 10 ^ 12 := by norm_num

/-- A number that is too long to be read writes an amount that is out of range. -/
theorem WellFormed.size_le_amount (h : quantity.WellFormed) (dimension : String)
    (hlong : Quantity.wideLimit ≤ quantity.number.numerator) :
    UInt64.size ≤ quantity.amount dimension := by
  obtain ⟨_, _, -, heq, htop, hpos, hbottom⟩ := h.exists_amount_eq dimension
  rw [heq]
  exact Quantity.size_le_ceilDiv (Nat.le_trans hlong htop) hpos hbottom

end WrittenQuantity

/-! ### Reading -/

namespace Quantity

variable {quantity : WrittenQuantity} {raw : String}

/-- What is read where a quantity stands. -/
theorem parse_of_standsIn (h : quantity.StandsIn raw) (dimension : String) :
    parse dimension raw =
      if wideLimit ≤ quantity.number.numerator then .error ⟨.invalid, dimension, raw⟩
      else if UInt64.size ≤ quantity.amount dimension then .error ⟨.overflow, dimension, raw⟩
      else .ok (.ofNat (quantity.amount dimension)) := by
  obtain ⟨hwell, htrim⟩ := WrittenQuantity.standsIn_iff.1 h
  obtain ⟨hnumber, hsuffix⟩ := hwell.split_text
  obtain ⟨multiplier, divisor, hfactor, hamount, -, hpos, hbottom⟩ :=
    hwell.exists_amount_eq dimension
  have hempty : quantity.text.isEmpty = false := List.isEmpty_eq_false_iff.2 hwell.text_ne_nil
  unfold parse
  simp only [htrim, hempty, hnumber, hsuffix, hwell.number.number?_text, hfactor]
  by_cases hlong : wideLimit ≤ quantity.number.numerator
  · simp [hlong]
  by_cases hwide : wideLimit ≤ quantity.number.numerator * multiplier * unitsOf dimension
  · have hnone : wide? _ = none := if_neg (Nat.not_lt.2 hwide)
    have hsize := size_le_ceilDiv hwide hpos hbottom
    rw [← hamount] at hsize
    simp [hlong, hnone, hsize]
  · have hsome : wide? _ = some _ := if_pos (Nat.not_le.1 hwide)
    by_cases hsize : UInt64.size ≤ quantity.amount dimension
    · simp [hlong, hsome, ← hamount, hsize]
    · simp [hlong, hsome, ← hamount, hsize, Nat.not_le.1 hsize]

/-- A text that is no quantity is refused as such. -/
theorem parse_of_not_standsIn (hblank : Text.trimChars raw.toList ≠ [])
    (h : ∀ quantity : WrittenQuantity, ¬ quantity.StandsIn raw) (dimension : String) :
    parse dimension raw = .error ⟨.invalid, dimension, raw⟩ := by
  have hempty : (Text.trimChars raw.toList).isEmpty = false := List.isEmpty_eq_false_iff.2 hblank
  unfold parse
  simp only [hempty]
  split
  · contradiction
  split
  · rename_i numerator scale multiplier divisor hnumber hfactor
    obtain ⟨hwell, -⟩ := WrittenNumber.of_number?_eq_some hnumber
    obtain ⟨quantity, hstands⟩ := WrittenQuantity.exists_standsIn hwell hfactor
    exact absurd hstands (h quantity)
  · rfl

theorem parse_of_blank (h : Text.trimChars raw.toList = []) (dimension : String) :
    parse dimension raw = .error ⟨.empty, dimension, raw⟩ := by
  unfold parse
  simp [h]

/-- The answers to a text, each with what the text is then. -/
inductive Answer (dimension raw : String) : Except QuantityError Amount → Prop
  /-- There is nothing but white space. -/
  | blank (h : Text.trimChars raw.toList = []) :
    Answer dimension raw (.error ⟨.empty, dimension, raw⟩)
  /-- There is something else than a quantity. -/
  | noQuantity (hblank : Text.trimChars raw.toList ≠ [])
      (h : ∀ quantity : WrittenQuantity, ¬ quantity.StandsIn raw) :
    Answer dimension raw (.error ⟨.invalid, dimension, raw⟩)
  /-- A quantity whose digits make no integer of 128 bits. -/
  | tooLong (quantity : WrittenQuantity) (h : quantity.StandsIn raw)
      (hlong : wideLimit ≤ quantity.number.numerator) :
    Answer dimension raw (.error ⟨.invalid, dimension, raw⟩)
  /-- Any other quantity whose amount does not fit 64 bits. -/
  | outOfRange (quantity : WrittenQuantity) (h : quantity.StandsIn raw)
      (hshort : quantity.number.numerator < wideLimit)
      (hsize : UInt64.size ≤ quantity.amount dimension) :
    Answer dimension raw (.error ⟨.overflow, dimension, raw⟩)
  /-- A quantity whose amount fits 64 bits. -/
  | amount (quantity : WrittenQuantity) (h : quantity.StandsIn raw)
      (hsize : quantity.amount dimension < UInt64.size) :
    Answer dimension raw (.ok (.ofNat (quantity.amount dimension)))

theorem answer_parse (dimension raw : String) : Answer dimension raw (parse dimension raw) := by
  by_cases hblank : Text.trimChars raw.toList = []
  · rw [parse_of_blank hblank]
    exact .blank hblank
  by_cases hstands : ∃ quantity : WrittenQuantity, quantity.StandsIn raw
  · obtain ⟨quantity, hstands⟩ := hstands
    rw [parse_of_standsIn hstands]
    by_cases hlong : wideLimit ≤ quantity.number.numerator
    · rw [if_pos hlong]
      exact .tooLong quantity hstands hlong
    · rw [if_neg hlong]
      by_cases hsize : UInt64.size ≤ quantity.amount dimension
      · rw [if_pos hsize]
        exact .outOfRange quantity hstands (Nat.not_le.1 hlong) hsize
      · rw [if_neg hsize]
        exact .amount quantity hstands (Nat.not_le.1 hsize)
  · have hnone : ∀ quantity : WrittenQuantity, ¬ quantity.StandsIn raw :=
      fun quantity h => hstands ⟨quantity, h⟩
    rw [parse_of_not_standsIn hblank hnone]
    exact .noQuantity hblank hnone

/-! ### Which answer is given -/

theorem wideLimit_eq : wideLimit = 2 ^ 128 := by decide

/-- Where a quantity stands that fits 64 bits, it is read. -/
theorem parse_of_amount_lt {dimension : String} (h : quantity.StandsIn raw)
    (hlt : quantity.amount dimension < UInt64.size) :
    parse dimension raw = .ok (.ofNat (quantity.amount dimension)) := by
  have hshort : ¬ wideLimit ≤ quantity.number.numerator := by
    intro hlong
    have hsize := h.wellFormed.size_le_amount dimension hlong
    omega
  rw [parse_of_standsIn h, if_neg hshort, if_neg (Nat.not_le.2 hlt)]

theorem parse_eq_ok_iff {dimension : String} {amount : Amount} :
    parse dimension raw = .ok amount ↔
      ∃ quantity : WrittenQuantity, quantity.StandsIn raw ∧
        amount.toNat = quantity.amount dimension := by
  constructor
  · intro h
    have hanswer := answer_parse dimension raw
    rw [h] at hanswer
    cases hanswer with
    | amount quantity hstands hsize =>
      exact ⟨quantity, hstands, UInt64.toNat_ofNat_of_lt' hsize⟩
  · rintro ⟨quantity, hstands, heq⟩
    have hlt : quantity.amount dimension < UInt64.size := heq ▸ amount.toNat_lt
    rw [parse_of_amount_lt hstands hlt, ← heq, UInt64.ofNat_toNat]

theorem parse_eq_empty_iff {dimension : String} :
    parse dimension raw = .error ⟨.empty, dimension, raw⟩ ↔ ∀ c ∈ raw.toList, Text.isBlank c := by
  rw [← Text.trimChars_eq_nil_iff]
  constructor
  · intro h
    have hanswer := answer_parse dimension raw
    rw [h] at hanswer
    cases hanswer with
    | blank hblank => exact hblank
  · intro h
    exact parse_of_blank h dimension

theorem parse_eq_overflow_iff {dimension : String} :
    parse dimension raw = .error ⟨.overflow, dimension, raw⟩ ↔
      ∃ quantity : WrittenQuantity, quantity.StandsIn raw ∧
        quantity.number.numerator < 2 ^ 128 ∧ UInt64.size ≤ quantity.amount dimension := by
  rw [← wideLimit_eq]
  constructor
  · intro h
    have hanswer := answer_parse dimension raw
    rw [h] at hanswer
    cases hanswer with
    | outOfRange quantity hstands hshort hsize => exact ⟨quantity, hstands, hshort, hsize⟩
  · rintro ⟨quantity, hstands, hlt, hsize⟩
    rw [parse_of_standsIn hstands, if_neg (Nat.not_le.2 hlt), if_pos hsize]

theorem parse_eq_invalid_iff {dimension : String} :
    parse dimension raw = .error ⟨.invalid, dimension, raw⟩ ↔
      (¬ ∀ c ∈ raw.toList, Text.isBlank c) ∧
        ∀ quantity : WrittenQuantity, quantity.StandsIn raw →
          2 ^ 128 ≤ quantity.number.numerator := by
  rw [← wideLimit_eq, ← Text.trimChars_eq_nil_iff]
  constructor
  · intro h
    refine ⟨fun hblank => ?_, fun quantity hstands => ?_⟩
    · cases (parse_of_blank hblank dimension).symm.trans h
    · rw [parse_of_standsIn hstands] at h
      split at h
      · assumption
      · split at h <;> cases h
  · rintro ⟨hblank, hlong⟩
    by_cases hstands : ∃ quantity : WrittenQuantity, quantity.StandsIn raw
    · obtain ⟨quantity, hstands⟩ := hstands
      rw [parse_of_standsIn hstands, if_pos (hlong quantity hstands)]
    · exact parse_of_not_standsIn hblank (fun quantity h => hstands ⟨quantity, h⟩) dimension

/-- A refusal names the dimension and the text. -/
theorem of_parse_eq_error {dimension : String} {error : QuantityError}
    (h : parse dimension raw = .error error) : error.dimension = dimension ∧ error.raw = raw := by
  have hanswer := answer_parse dimension raw
  rw [h] at hanswer
  cases hanswer with
  | blank => exact ⟨rfl, rfl⟩
  | noQuantity => exact ⟨rfl, rfl⟩
  | tooLong => exact ⟨rfl, rfl⟩
  | outOfRange => exact ⟨rfl, rfl⟩

end Quantity

/-- An amount is read off a text exactly if a quantity stands there, apart from white space, and the
amount is its exact value in units of the dimension, rounded up. So a quantity whose amount fits 64
bits is always read, and read as that amount. -/
theorem parse_is_exact (dimension raw : String) :
    (∀ amount : Amount, Quantity.parse dimension raw = .ok amount ↔
      ∃ quantity : WrittenQuantity, quantity.StandsIn raw ∧
        amount.toNat = quantity.amount dimension) ∧
    ∀ quantity : WrittenQuantity, quantity.StandsIn raw →
      quantity.amount dimension < UInt64.size →
      Quantity.parse dimension raw = .ok (.ofNat (quantity.amount dimension)) := by
  refine ⟨fun amount => Quantity.parse_eq_ok_iff, fun quantity hstands hlt => ?_⟩
  exact Quantity.parse_of_amount_lt hstands hlt

/-- A text is refused as empty if it is blank; as out of range if a quantity stands there whose
amount does not fit 64 bits, as long as the digits of its number make an integer of 128 bits; and as
no quantity if it is neither blank nor such a quantity. What is refused for the length of its digits
alone is out of range as well. Every refusal names the dimension and the text. -/
theorem refusals_told_apart (dimension raw : String) :
    (Quantity.parse dimension raw = .error ⟨.empty, dimension, raw⟩ ↔
      ∀ c ∈ raw.toList, Text.isBlank c) ∧
    (Quantity.parse dimension raw = .error ⟨.overflow, dimension, raw⟩ ↔
      ∃ quantity : WrittenQuantity, quantity.StandsIn raw ∧
        quantity.number.numerator < 2 ^ 128 ∧ UInt64.size ≤ quantity.amount dimension) ∧
    (Quantity.parse dimension raw = .error ⟨.invalid, dimension, raw⟩ ↔
      (¬ ∀ c ∈ raw.toList, Text.isBlank c) ∧
        ∀ quantity : WrittenQuantity, quantity.StandsIn raw →
          2 ^ 128 ≤ quantity.number.numerator) ∧
    (∀ quantity : WrittenQuantity, quantity.StandsIn raw →
      2 ^ 128 ≤ quantity.number.numerator → UInt64.size ≤ quantity.amount dimension) ∧
    ∀ error, Quantity.parse dimension raw = .error error →
      error.dimension = dimension ∧ error.raw = raw := by
  refine ⟨Quantity.parse_eq_empty_iff, Quantity.parse_eq_overflow_iff,
    Quantity.parse_eq_invalid_iff, fun quantity hstands hlong => ?_,
    fun error => Quantity.of_parse_eq_error⟩
  rw [← Quantity.wideLimit_eq] at hlong
  exact hstands.wellFormed.size_le_amount dimension hlong

/-- The least integer of 129 bits is a quantity and out of range, and yet it is refused as no
quantity. -/
theorem long_integer_refused_as_notation :
    let raw := "340282366920938463463374607431768211456"
    let quantity : WrittenQuantity := ⟨⟨raw.toList, none⟩, "", 1⟩
    quantity.StandsIn raw ∧ UInt64.size ≤ quantity.amount "memory" ∧
      Quantity.parse "memory" raw = .error ⟨.invalid, "memory", raw⟩ := by
  intro raw quantity
  have hdigits : quantity.number.digits.all Text.isDigit := by decide
  have hwell : quantity.WellFormed :=
    ⟨⟨List.all_eq_true.1 hdigits, by decide, by decide⟩, by decide⟩
  have hstands : quantity.StandsIn raw :=
    ⟨hwell, [], [], by simp, by simp, by decide⟩
  have hlong : Quantity.wideLimit ≤ quantity.number.numerator := by decide
  refine ⟨hstands, hwell.size_le_amount "memory" hlong, ?_⟩
  rw [Quantity.parse_of_standsIn hstands, if_pos hlong]

end ClusterSim
