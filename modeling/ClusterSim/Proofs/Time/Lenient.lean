import ClusterSim.Proofs.Text.Blank
import ClusterSim.Proofs.Time.Reading
import ClusterSim.Time.Lenient

/-!
# Exported instants are read back

The exported text of an instant, in a leap second or not and of any year that instants reach, is
read in the lenient form as that instant (`parseLenient_text`).
-/

namespace ClusterSim

namespace WrittenTime

theorem spacedOneOf_cons {allowed : List Char} {c : Char} (hmem : c ∈ allowed)
    (hblank : ¬ Text.isBlank c) (rest : List Char) :
    spacedOneOf allowed (c :: rest) = .ok ((), rest) := by
  rw [spacedOneOf, Text.dropBlank_cons hblank, oneOf, if_pos (List.contains_iff_mem.2 hmem)]

/-- A number of two digits is read whatever stands behind it. -/
theorem spacedNumber_twoPlaces {n : Nat} (hn : n < 100) (rest : List Char) :
    spacedNumber 2 (Instant.twoPlaces n ++ rest) = .ok (n, rest) := by
  have hdigits : ∀ c ∈ Instant.twoPlaces n, Text.isDigit c := fun c => Text.isDigit_of_mem_zeroPad
  unfold spacedNumber
  rw [Text.dropBlank_digits (Text.zeroPad_ne_nil 2 n) hdigits,
    digits_zeroPad (by decide) hn (Nat.le_refl 2) (.inl rfl)]
  show Except.ok (valueOf _, rest) = _
  rw [valueOf_zeroPad]

/-- After a sign all digits are read, however many there are. -/
theorem digits_signed {n : Nat} {rest : List Char} (hstop : StopsDigits rest) :
    digits (Text.zeroPad 4 (Nat.toDigits 10 n) ++ rest).length
        (Text.zeroPad 4 (Nat.toDigits 10 n) ++ rest) =
      .ok (Text.zeroPad 4 (Nat.toDigits 10 n), rest) := by
  refine digits_append (Text.zeroPad_ne_nil 4 n) (fun c => Text.isDigit_of_mem_zeroPad) ?_
    (.inr hstop)
  rw [List.length_append]
  omega

/-- A year of any sign is read up to the hyphen behind it. -/
theorem spacedYear_yearText (year : Int) {rest : List Char} (hstop : StopsDigits rest) :
    spacedYear ((Instant.yearText year).toList ++ rest) = .ok (year, rest) := by
  have hdigits : ∀ c ∈ Text.zeroPad 4 (Nat.toDigits 10 year.natAbs), Text.isDigit c :=
    fun c => Text.isDigit_of_mem_zeroPad
  unfold Instant.yearText
  by_cases hshort : 0 ≤ year ∧ year ≤ 9999
  · have hne : Text.zeroPad 4 (Nat.toDigits 10 year.natAbs) ≠ [] := Text.zeroPad_ne_nil 4 _
    have hlt : year.natAbs < 10 ^ 4 := by omega
    rw [if_pos hshort, Text.toList_paddedDecimal]
    unfold spacedYear
    rw [Text.dropBlank_digits hne hdigits]
    split
    · rename_i hsign
      exact absurd (Text.isDigit_of_append_eq_cons hne hdigits hsign) (by decide)
    · rename_i hsign
      exact absurd (Text.isDigit_of_append_eq_cons hne hdigits hsign) (by decide)
    · rw [digits_zeroPad (by decide) hlt (Nat.le_refl 4) (.inl rfl)]
      show Except.ok ((valueOf _ : Int), rest) = _
      rw [valueOf_zeroPad, Int.natAbs_of_nonneg hshort.1]
  · rw [if_neg hshort, String.toList_append, Text.toList_paddedDecimal]
    by_cases hnegative : year < 0
    · rw [if_pos hnegative]
      show spacedYear ('-' :: (Text.zeroPad 4 (Nat.toDigits 10 year.natAbs) ++ rest)) = _
      unfold spacedYear
      rw [Text.dropBlank_cons (by decide)]
      simp only [digits_signed hstop]
      show Except.ok (-(valueOf _ : Int), rest) = _
      rw [valueOf_zeroPad, Int.ofNat_natAbs_of_nonpos (by omega), Int.neg_neg]
    · rw [if_neg hnegative]
      show spacedYear ('+' :: (Text.zeroPad 4 (Nat.toDigits 10 year.natAbs) ++ rest)) = _
      unfold spacedYear
      rw [Text.dropBlank_cons (by decide)]
      simp only [digits_signed hstop]
      show Except.ok ((valueOf _ : Int), rest) = _
      rw [valueOf_zeroPad, Int.natAbs_of_nonneg (by omega)]

theorem spacedOneOf_hyphen (rest : List Char) : spacedOneOf ['-'] ('-' :: rest) = .ok ((), rest) :=
  spacedOneOf_cons (by decide) (by decide) rest

theorem spacedOneOf_colon (rest : List Char) : spacedOneOf [':'] (':' :: rest) = .ok ((), rest) :=
  spacedOneOf_cons (by decide) (by decide) rest

theorem readLenient_text (t : Instant) : readLenient t.text.toList = .ok t.written := by
  obtain ⟨hmonth, hday⟩ := Date.le_of_isValid t.isValid_date_written
  obtain ⟨hhour, hminute, hsecond⟩ := t.timeOfDay_written
  have hfraction : t.written.fraction < nanosPerSecond := Nat.mod_lt _ (by decide)
  have hyear : ∀ rest, spacedYear ((Instant.yearText t.written.date.year).toList ++ '-' :: rest) =
      .ok (t.written.date.year, '-' :: rest) := by
    intro rest
    refine spacedYear_yearText _ fun c hmem => ?_
    rw [← Option.some.inj hmem]
    decide
  have hseparator : ∀ rest, oneOf ['T', 't', ' '] ("T".toList ++ rest) = .ok ((), rest) :=
    fun rest => rfl
  have hpoint : optionalFraction
      ((Instant.fractionText t.written.fraction).toList ++ "Z".toList) =
        .ok (t.written.fraction, ['Z']) :=
    optionalFraction_fractionText hfraction (by decide) (by decide)
  have hzone : zone (Text.dropBlank ['Z']) = .ok (0, []) := rfl
  rw [Instant.text, Instant.toList_format]
  unfold readLenient
  simp only [bind, Except.bind, hyear, spacedOneOf_hyphen, spacedOneOf_colon, hseparator, hpoint,
    hzone, spacedNumber_twoPlaces (by omega : t.written.date.month < 100),
    spacedNumber_twoPlaces (by omega : t.written.date.day < 100),
    spacedNumber_twoPlaces (by omega : t.written.hour < 100),
    spacedNumber_twoPlaces (by omega : t.written.minute < 100),
    spacedNumber_twoPlaces (by omega : t.written.second < 100)]
  rfl

end WrittenTime

/-- What is written of an instant is read as that instant. -/
theorem Instant.parseLenient_text (t : Instant) : parseLenient t.text = .ok t := by
  unfold parseLenient
  rw [WrittenTime.readLenient_text]
  exact t.toInstant_written

end ClusterSim
