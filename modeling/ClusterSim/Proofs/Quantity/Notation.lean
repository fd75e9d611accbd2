import ClusterSim.Proofs.Text.Blank
import ClusterSim.Proofs.Text.Numeral
import ClusterSim.Quantity
import Mathlib.Data.Rat.Floor
import Mathlib.Tactic.NormNum

/-!
# The notation of quantities

What a quantity looks like and what it stands for, said without reading it: a number with its
digits, a suffix from a table, white space around them, and the exact rational value. A well-formed
number is read off its text unless its digits, without the point, make an integer of more than 128
bits (`WrittenNumber.WellFormed.number?_text`). A quantity stands in a text exactly if the text is
trimmed to it (`WrittenQuantity.standsIn_iff`).
-/

namespace ClusterSim

theorem Quantity.wide?_eq_some_iff {n m : Nat} :
    wide? n = some m ↔ n < wideLimit ∧ m = n := by
  unfold wide?
  split <;> simp_all [eq_comm]

/-- An unsigned decimal number as it is written. -/
structure WrittenNumber where
  /-- The digits in front of the point. -/
  whole : List Char
  /-- The digits behind the point, if there is a point. -/
  fraction : Option (List Char)

namespace WrittenNumber

/-- All the digits. -/
def digits (number : WrittenNumber) : List Char := number.whole ++ number.fraction.getD []

/-- The digits with the point between them. -/
def text (number : WrittenNumber) : List Char :=
  number.whole ++ number.fraction.elim [] ('.' :: ·)

/-- A number has at least one digit, on either side of the point, and at most nine behind it. -/
structure WellFormed (number : WrittenNumber) : Prop where
  isDigit : ∀ c ∈ number.digits, Text.isDigit c
  ne_nil : number.digits ≠ []
  length_le : (number.fraction.getD []).length ≤ 9

/-- The integer that the digits make without the point. -/
def numerator (number : WrittenNumber) : Nat := Text.decimalValue number.digits

/-- The power of ten by which the point divides. -/
def scale (number : WrittenNumber) : Nat := 10 ^ (number.fraction.getD []).length

/-- The number that is written. -/
def value (number : WrittenNumber) : ℚ := number.numerator / number.scale

theorem scale_pos (number : WrittenNumber) : 0 < number.scale := Nat.pow_pos (by decide)

theorem numerator_eq (number : WrittenNumber) :
    number.numerator = Text.decimalValue number.whole * number.scale +
      Text.decimalValue (number.fraction.getD []) :=
  Text.decimalValue_append _ _

theorem decimalValue_whole_le (number : WrittenNumber) :
    Text.decimalValue number.whole ≤ number.numerator := by
  have hle := Nat.le_mul_of_pos_right (Text.decimalValue number.whole) number.scale_pos
  rw [numerator_eq]
  omega

theorem mem_text {number : WrittenNumber} {c : Char} (h : c ∈ number.text) :
    c ∈ number.digits ∨ c = '.' := by
  obtain ⟨whole, _ | fraction⟩ := number
  · exact .inl h
  · rcases List.mem_append.1 h with hmem | hmem
    · exact .inl (List.mem_append_left _ hmem)
    · rcases List.mem_cons.1 hmem with heq | hmem
      · exact .inr heq
      · exact .inl (List.mem_append_right _ hmem)

theorem text_ne_nil {number : WrittenNumber} (h : number.digits ≠ []) : number.text ≠ [] := by
  obtain ⟨whole, _ | fraction⟩ := number
  · simpa [text, digits] using h
  · simp [text]

/-! ### Reading a number -/

/-- The parts of a text at its first point. -/
def ofChars (cs : List Char) : WrittenNumber where
  whole := cs.takeWhile (· ≠ '.')
  fraction :=
    match cs.dropWhile (· ≠ '.') with
    | [] => none
    | _ :: rest => some rest

theorem fraction_ofChars (cs : List Char) :
    (ofChars cs).fraction.getD [] = (cs.dropWhile (· ≠ '.')).drop 1 := by
  unfold ofChars
  cases cs.dropWhile (· ≠ '.') <;> rfl

theorem text_ofChars (cs : List Char) : (ofChars cs).text = cs := by
  have hsplit : cs.takeWhile (· ≠ '.') ++ cs.dropWhile (· ≠ '.') = cs :=
    List.takeWhile_append_dropWhile
  unfold text ofChars
  cases hrest : cs.dropWhile (· ≠ '.') with
  | nil =>
    rw [hrest] at hsplit
    exact hsplit
  | cons c rest =>
    have hpoint : c = '.' := by
      have hhead := List.head?_dropWhile_not (· ≠ '.') cs
      rw [hrest] at hhead
      simpa using hhead
    subst hpoint
    rw [hrest] at hsplit
    exact hsplit

theorem not_isDigit_point : ¬ Text.isDigit '.' := by decide

/-- The parts of a well-formed number are found again in its text. -/
theorem WellFormed.ofChars_text {number : WrittenNumber} (h : number.WellFormed) :
    ofChars number.text = number := by
  have hwhole : ∀ c ∈ number.whole, decide (c ≠ '.') := by
    intro c hmem
    have hdigit := h.isDigit c (List.mem_append_left _ hmem)
    rw [decide_eq_true_eq]
    rintro rfl
    exact not_isDigit_point hdigit
  unfold ofChars text
  rw [List.takeWhile_append_of_pos hwhole, List.dropWhile_append_of_pos hwhole]
  obtain ⟨whole, _ | fraction⟩ := number
  · simp
  · simp

theorem whole_ofChars (cs : List Char) : (ofChars cs).whole = cs.takeWhile (· ≠ '.') := rfl

/-- Only well-formed numbers are read, and only those whose digits make an integer of 128 bits. -/
theorem of_number?_eq_some {cs : List Char} {numerator scale : Nat}
    (h : Quantity.number? cs = some (numerator, scale)) :
    (ofChars cs).WellFormed ∧ (ofChars cs).numerator < Quantity.wideLimit ∧
      numerator = (ofChars cs).numerator ∧ scale = (ofChars cs).scale := by
  simp only [Quantity.number?, ← fraction_ofChars, ← whole_ofChars] at h
  generalize ofChars cs = number at h
  split at h
  · cases h
  rename_i hempty
  split at h
  · cases h
  split at h
  · cases h
  rename_i hlong
  obtain ⟨wide, hread, h⟩ := Option.bind_eq_some_iff.1 h
  obtain ⟨whole, hwhole, hwide⟩ := Option.bind_eq_some_iff.1 hread
  obtain ⟨fraction, hfraction, h⟩ := Option.bind_eq_some_iff.1 h
  obtain ⟨total, htotal, h⟩ := Option.bind_eq_some_iff.1 h
  obtain ⟨hdigits, rfl⟩ := Text.foldDigits_eq_some_iff.1 hwhole
  obtain ⟨hmore, rfl⟩ := Text.foldDigits_eq_some_iff.1 hfraction
  obtain ⟨-, rfl⟩ := Quantity.wide?_eq_some_iff.1 hwide
  obtain ⟨hlt, rfl⟩ := Quantity.wide?_eq_some_iff.1 htotal
  obtain ⟨rfl, rfl⟩ := Prod.mk.inj (Option.some.inj h)
  simp only [Nat.zero_mul, Nat.zero_add] at hlt ⊢
  refine ⟨⟨fun c hmem => ?_, fun hnil => ?_, Nat.not_lt.1 hlong⟩, ?_, ?_, rfl⟩
  · exact (List.mem_append.1 hmem).elim (hdigits c) (hmore c)
  · obtain ⟨hleft, hright⟩ := List.append_eq_nil_iff.1 hnil
    simp [hleft, hright] at hempty
  · rw [numerator_eq]
    exact hlt
  · rw [numerator_eq]
    rfl

theorem number?_of_wellFormed {cs : List Char} (h : (ofChars cs).WellFormed)
    (hlt : (ofChars cs).numerator < Quantity.wideLimit) :
    Quantity.number? cs = some ((ofChars cs).numerator, (ofChars cs).scale) := by
  simp only [Quantity.number?, ← fraction_ofChars, ← whole_ofChars]
  generalize ofChars cs = number at h hlt
  have hempty : ¬ (number.whole.isEmpty && (number.fraction.getD []).isEmpty) = true := by
    simpa [digits] using h.ne_nil
  have hpoint : ¬ (number.fraction.getD []).contains '.' = true := by
    rw [List.contains_iff_mem]
    intro hmem
    exact not_isDigit_point (h.isDigit '.' (List.mem_append_right _ hmem))
  have hlong : ¬ Quantity.maxFractionDigits < (number.fraction.getD []).length :=
    Nat.not_lt.2 h.length_le
  have hwhole : Text.foldDigits 10 0 number.whole = some (Text.decimalValue number.whole) :=
    Text.foldDigits_eq_some_iff.2
      ⟨fun c hmem => h.isDigit c (List.mem_append_left _ hmem), by omega⟩
  have hfraction : Text.foldDigits 10 0 (number.fraction.getD []) =
      some (Text.decimalValue (number.fraction.getD [])) :=
    Text.foldDigits_eq_some_iff.2
      ⟨fun c hmem => h.isDigit c (List.mem_append_right _ hmem), by omega⟩
  have hwide : Quantity.wide? (Text.decimalValue number.whole) =
      some (Text.decimalValue number.whole) :=
    Quantity.wide?_eq_some_iff.2 ⟨Nat.lt_of_le_of_lt number.decimalValue_whole_le hlt, rfl⟩
  have htotal : Quantity.wide? (Text.decimalValue number.whole * number.scale +
      Text.decimalValue (number.fraction.getD [])) = some number.numerator :=
    Quantity.wide?_eq_some_iff.2 ⟨number.numerator_eq ▸ hlt, number.numerator_eq⟩
  rw [if_neg hempty, if_neg hpoint, if_neg hlong, hwhole, hfraction, Option.bind_some, hwide]
  show (Quantity.wide? (Text.decimalValue number.whole * number.scale +
    Text.decimalValue (number.fraction.getD []))).bind _ = _
  rw [htotal]
  rfl

/-- A well-formed number is read if its digits make an integer of 128 bits. -/
theorem WellFormed.number?_text {number : WrittenNumber} (h : number.WellFormed) :
    Quantity.number? number.text =
      if Quantity.wideLimit ≤ number.numerator then none
      else some (number.numerator, number.scale) := by
  have hparts := h.ofChars_text
  by_cases hlong : Quantity.wideLimit ≤ number.numerator
  · rw [if_pos hlong, Option.eq_none_iff_forall_ne_some]
    rintro ⟨numerator, scale⟩ hread
    obtain ⟨-, hlt, -⟩ := of_number?_eq_some hread
    rw [hparts] at hlt
    omega
  · rw [if_neg hlong, number?_of_wellFormed]
    · rw [hparts]
    · rwa [hparts]
    · rw [hparts]
      omega

end WrittenNumber

/-! ### Suffixes -/

/-- The suffixes, and the number by which each of them multiplies. -/
def suffixes : List (String × ℚ) :=
  [("", 1), ("m", 1 / 10 ^ 3), ("k", 10 ^ 3), ("K", 10 ^ 3), ("M", 10 ^ 6), ("G", 10 ^ 9),
    ("T", 10 ^ 12), ("P", 10 ^ 15), ("Ki", 2 ^ 10), ("Mi", 2 ^ 20), ("Gi", 2 ^ 30),
    ("Ti", 2 ^ 40), ("Pi", 2 ^ 50)]

namespace Quantity

/-- A suffix of the table is read as a fraction with small terms. -/
theorem exists_factor? {suffix : String} {factor : ℚ} (h : (suffix, factor) ∈ suffixes) :
    ∃ multiplier divisor, factor? suffix.toList = some (multiplier, divisor) ∧
      factor = multiplier / divisor ∧ 0 < multiplier ∧ 0 < divisor ∧ divisor ≤ 1000 := by
  simp only [suffixes, List.mem_cons, Prod.mk.injEq, List.not_mem_nil, or_false] at h
  rcases h with ⟨rfl, rfl⟩ | ⟨rfl, rfl⟩ | ⟨rfl, rfl⟩ | ⟨rfl, rfl⟩ | ⟨rfl, rfl⟩ | ⟨rfl, rfl⟩ |
    ⟨rfl, rfl⟩ | ⟨rfl, rfl⟩ | ⟨rfl, rfl⟩ | ⟨rfl, rfl⟩ | ⟨rfl, rfl⟩ | ⟨rfl, rfl⟩ | ⟨rfl, rfl⟩ <;>
    exact ⟨_, _, rfl, by norm_num, by norm_num, by norm_num, by norm_num⟩

/-- Only suffixes of the table are read. -/
theorem exists_of_factor? {cs : List Char} {multiplier divisor : Nat}
    (h : factor? cs = some (multiplier, divisor)) :
    ∃ suffix factor, (suffix, factor) ∈ suffixes ∧ suffix.toList = cs := by
  suffices ∃ entry ∈ suffixes, entry.1.toList = cs by
    obtain ⟨entry, hmem, heq⟩ := this
    exact ⟨entry.1, entry.2, hmem, heq⟩
  unfold factor? at h
  split at h <;> simp_all [suffixes]

theorem not_isNumberChar_of_mem_suffix {suffix : String} {factor : ℚ}
    (h : (suffix, factor) ∈ suffixes) {c : Char} (hmem : c ∈ suffix.toList) :
    ¬ isNumberChar c ∧ ¬ Text.isBlank c := by
  have hall : (suffixes.map (·.1)).all fun name =>
      name.toList.all fun c => ¬ isNumberChar c ∧ ¬ Text.isBlank c := by
    decide
  have hsuffix := List.all_eq_true.1 hall suffix (List.mem_map_of_mem h)
  simpa using List.all_eq_true.1 hsuffix c hmem

end Quantity

/-! ### Quantities -/

/-- A quantity as it is written: a number, a suffix, and what the suffix multiplies by. -/
structure WrittenQuantity where
  number : WrittenNumber
  suffix : String
  factor : ℚ

namespace WrittenQuantity

def text (quantity : WrittenQuantity) : List Char :=
  quantity.number.text ++ quantity.suffix.toList

structure WellFormed (quantity : WrittenQuantity) : Prop where
  number : quantity.number.WellFormed
  suffix_mem : (quantity.suffix, quantity.factor) ∈ suffixes

/-- The exact value, before it is counted in units and rounded. -/
def value (quantity : WrittenQuantity) : ℚ := quantity.number.value * quantity.factor

/-- A text is a well-formed quantity with nothing but white space around it. -/
structure StandsIn (quantity : WrittenQuantity) (raw : String) : Prop where
  wellFormed : quantity.WellFormed
  exists_blanks : ∃ lead trail, (∀ c ∈ lead, Text.isBlank c) ∧ (∀ c ∈ trail, Text.isBlank c) ∧
    raw.toList = lead ++ quantity.text ++ trail

variable {quantity : WrittenQuantity} {raw : String}

theorem WellFormed.number_chars (h : quantity.WellFormed) {c : Char}
    (hmem : c ∈ quantity.number.text) : Quantity.isNumberChar c ∧ ¬ Text.isBlank c := by
  rcases WrittenNumber.mem_text hmem with hmem | rfl
  · have hdigit := h.number.isDigit c hmem
    exact ⟨by simp [Quantity.isNumberChar, hdigit], Text.not_isBlank_of_isDigit hdigit⟩
  · decide

theorem WellFormed.suffix_chars (h : quantity.WellFormed) {c : Char}
    (hmem : c ∈ quantity.suffix.toList) : ¬ Quantity.isNumberChar c ∧ ¬ Text.isBlank c :=
  Quantity.not_isNumberChar_of_mem_suffix h.suffix_mem hmem

/-- The number ends where the suffix begins. -/
theorem WellFormed.split_text (h : quantity.WellFormed) :
    quantity.text.takeWhile Quantity.isNumberChar = quantity.number.text ∧
      quantity.text.dropWhile Quantity.isNumberChar = quantity.suffix.toList := by
  unfold text
  rw [List.takeWhile_append_of_pos fun c hmem => (h.number_chars hmem).1,
    List.dropWhile_append_of_pos fun c hmem => (h.number_chars hmem).1]
  cases hsuffix : quantity.suffix.toList with
  | nil => simp
  | cons c rest =>
    have hmem : c ∈ quantity.suffix.toList := by rw [hsuffix]; exact List.mem_cons_self
    simp [(h.suffix_chars hmem).1]

theorem WellFormed.not_isBlank (h : quantity.WellFormed) {c : Char} (hmem : c ∈ quantity.text) :
    ¬ Text.isBlank c := by
  rcases List.mem_append.1 hmem with hmem | hmem
  · exact (h.number_chars hmem).2
  · exact (h.suffix_chars hmem).2

theorem WellFormed.text_ne_nil (h : quantity.WellFormed) : quantity.text ≠ [] := by
  intro hnil
  exact WrittenNumber.text_ne_nil h.number.ne_nil (List.append_eq_nil_iff.1 hnil).1

/-- What a quantity stands in is trimmed to it. -/
theorem standsIn_iff : quantity.StandsIn raw ↔
    quantity.WellFormed ∧ Text.trimChars raw.toList = quantity.text := by
  have htrim : quantity.WellFormed → (Text.trimChars raw.toList = quantity.text ↔ _) := fun h =>
    Text.trimChars_eq_iff (fun c hmem => h.not_isBlank (List.mem_of_mem_head? hmem))
      (fun c hmem => h.not_isBlank (List.mem_of_mem_getLast? hmem))
  constructor
  · rintro ⟨h, hblanks⟩
    exact ⟨h, (htrim h).2 hblanks⟩
  · rintro ⟨h, heq⟩
    exact ⟨h, (htrim h).1 heq⟩

/-- If the parts of a trimmed text are a number and a suffix, then a quantity stands there. -/
theorem exists_standsIn {multiplier divisor : Nat}
    (hnumber : (WrittenNumber.ofChars
      ((Text.trimChars raw.toList).takeWhile Quantity.isNumberChar)).WellFormed)
    (hfactor : Quantity.factor?
      ((Text.trimChars raw.toList).dropWhile Quantity.isNumberChar) = some (multiplier, divisor)) :
    ∃ quantity : WrittenQuantity, quantity.StandsIn raw := by
  obtain ⟨suffix, factor, hmem, hsuffix⟩ := Quantity.exists_of_factor? hfactor
  have hwell : WellFormed ⟨_, suffix, factor⟩ := ⟨hnumber, hmem⟩
  refine ⟨_, standsIn_iff.2 ⟨hwell, ?_⟩⟩
  show _ = (WrittenNumber.ofChars _).text ++ suffix.toList
  rw [WrittenNumber.text_ofChars, hsuffix, List.takeWhile_append_dropWhile]

end WrittenQuantity

end ClusterSim
