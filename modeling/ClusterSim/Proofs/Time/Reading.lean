import ClusterSim.Proofs.Time.Notation
import ClusterSim.Time.Rfc3339

/-!
# The parts of a written instant

The written form of an instant is made up of numbers that name the instant again
(`toInstant_written`), and each of them is read back from its digits. A fraction of a second may
have any number of digits; those behind the ninth are cut off (`optionalFraction_append`).
-/

namespace ClusterSim

/-! ### The parts -/

/-- The parts of an instant, as they are written in Universal Time. -/
def Instant.written (t : Instant) : WrittenTime :=
  let second := (t.seconds % secondsPerDay).toNat
  { date := Date.ofDays (t.seconds / secondsPerDay)
    hour := second / 3600
    minute := second / 60 % 60
    second := second % 60 + t.nanos / nanosPerSecond
    fraction := t.nanos % nanosPerSecond
    offset := 0 }

namespace Instant

variable (t : Instant)

/-- The seconds of a day and those of a leap second. -/
theorem second_written :
    t.nanos < nanosPerSecond ∧ t.written.second = (t.seconds % 60).toNat ∨
      nanosPerSecond ≤ t.nanos ∧ t.seconds % 60 = 59 ∧ t.written.second = 60 := by
  have hlt := t.nanos_lt
  unfold written secondsPerDay
  simp only
  by_cases hleap : nanosPerSecond ≤ t.nanos
  · have hlast := t.leap_last hleap
    refine .inr ⟨hleap, hlast, ?_⟩
    unfold nanosPerSecond at *
    omega
  · refine .inl ⟨by omega, ?_⟩
    unfold nanosPerSecond at *
    omega

theorem timeOfDay_written :
    t.written.hour < 24 ∧ t.written.minute < 60 ∧ t.written.second ≤ 60 := by
  refine ⟨?_, ?_, ?_⟩
  · show (t.seconds % secondsPerDay).toNat / 3600 < 24
    unfold secondsPerDay
    omega
  · show (t.seconds % secondsPerDay).toNat / 60 % 60 < 60
    omega
  · rcases t.second_written with ⟨-, heq⟩ | ⟨-, -, heq⟩ <;> omega

theorem isValid_date_written : t.written.date.isValid := Date.isValid_ofDays _

theorem year_written : -262143 ≤ t.written.date.year ∧ t.written.date.year ≤ 262142 := by
  have hearliest := t.earliest_le
  have hlatest := t.le_latest
  refine Date.year_ofDays ?_ ?_
  · exact Int.ediv_le_ediv (by decide) hearliest
  · exact Int.ediv_le_ediv (by decide) hlatest

theorem isValid_written : t.written.isValid := by
  obtain ⟨hhour, hminute, hsecond⟩ := t.timeOfDay_written
  obtain ⟨hlow, hhigh⟩ := t.year_written
  simp [WrittenTime.isValid, WrittenTime.isTimeOfDay, t.isValid_date_written, hlow, hhigh, hhour,
    hminute, hsecond]

theorem localParts_written : t.written.localParts = (t.seconds, t.nanos) := by
  have hdays : t.written.date.toDays = t.seconds / secondsPerDay := Date.toDays_ofDays _
  have hhour : t.written.hour = (t.seconds % secondsPerDay).toNat / 3600 := rfl
  have hminute : t.written.minute = (t.seconds % secondsPerDay).toNat / 60 % 60 := rfl
  have hfraction : t.written.fraction = t.nanos % nanosPerSecond := rfl
  have hlt := t.nanos_lt
  unfold WrittenTime.localParts
  simp only [hdays, hhour, hminute, hfraction]
  unfold secondsPerDay nanosPerSecond at *
  rcases t.second_written with ⟨hnanos, hsecond⟩ | ⟨hnanos, hlast, hsecond⟩
  · have hne : t.written.second ≠ 60 := by omega
    unfold nanosPerSecond at hnanos
    rw [if_neg hne, if_neg hne, hsecond]
    refine Prod.ext ?_ ?_ <;> simp only <;> omega
  · unfold nanosPerSecond at hnanos
    rw [if_pos hsecond, if_pos hsecond]
    refine Prod.ext ?_ ?_ <;> simp only <;> omega

/-- The parts of an instant name that instant. -/
theorem toInstant_written : t.written.toInstant = .ok t := by
  have hparts : ofParts? t.seconds t.nanos = some t :=
    dif_pos ⟨t.earliest_le, t.le_latest, t.nanos_lt, t.leap_last⟩
  have hoffset : t.written.offset = 0 := rfl
  have hshort : ¬ 24 * 60 ≤ t.written.offset.natAbs := by rw [hoffset]; decide
  unfold WrittenTime.toInstant
  rw [if_neg (by simpa using t.isValid_written), if_neg hshort, t.localParts_written, hoffset]
  simp only [Int.zero_mul, Int.sub_zero, hparts]

/-- Two decimal digits. -/
abbrev twoPlaces (n : Nat) : List Char := Text.zeroPad 2 (Nat.toDigits 10 n)

/-- The characters of a written instant, with the marks between its parts. -/
theorem toList_format (separator zone : String) :
    (t.format separator zone).toList =
      (yearText t.written.date.year).toList ++ '-' :: (twoPlaces t.written.date.month ++
        '-' :: (twoPlaces t.written.date.day ++ (separator.toList ++
        (twoPlaces t.written.hour ++ ':' :: (twoPlaces t.written.minute ++
        ':' :: (twoPlaces t.written.second ++
        ((fractionText t.written.fraction).toList ++ zone.toList))))))) := by
  unfold format
  simp only [String.toList_append, Text.toList_paddedDecimal, List.append_assoc]
  rfl

end Instant

/-! ### Numbers -/

namespace WrittenTime

/-- What stands behind a run of digits does not belong to it. -/
def StopsDigits (rest : List Char) : Prop := ∀ c ∈ rest.head?, ¬ Text.isDigit c

theorem StopsDigits.takeWhile {rest : List Char} (h : StopsDigits rest) (count : Nat) :
    (rest.take count).takeWhile Text.isDigit = [] := by
  cases rest with
  | nil => simp
  | cons c more =>
    cases count with
    | zero => rfl
    | succ count => exact List.takeWhile_cons_of_neg (h c rfl)

theorem StopsDigits.dropWhile {rest : List Char} (h : StopsDigits rest) :
    rest.dropWhile Text.isDigit = rest := by
  cases rest with
  | nil => rfl
  | cons c more => exact List.dropWhile_cons_of_neg (h c rfl)

theorem stopsDigits_dropWhile (cs : List Char) : StopsDigits (cs.dropWhile Text.isDigit) := by
  intro c hmem
  have hhead := List.head?_dropWhile_not Text.isDigit cs
  rw [Option.mem_def.1 hmem] at hhead
  simpa using hhead

/-- A run of digits is read up to its end. -/
theorem digits_append {most : Nat} {run rest : List Char} (hne : run ≠ [])
    (hdigits : ∀ c ∈ run, Text.isDigit c) (hle : run.length ≤ most)
    (hstop : run.length = most ∨ StopsDigits rest) :
    digits most (run ++ rest) = .ok (run, rest) := by
  have htake : (run ++ rest).take most = run ++ rest.take (most - run.length) := by
    rw [List.take_append, List.take_of_length_le hle]
  have hbehind : (rest.take (most - run.length)).takeWhile Text.isDigit = [] := by
    rcases hstop with heq | hstops
    · rw [heq, Nat.sub_self]
      rfl
    · exact hstops.takeWhile _
  have hrun : ((run ++ rest).take most).takeWhile Text.isDigit = run := by
    rw [htake, List.takeWhile_append_of_pos hdigits, hbehind, List.append_nil]
  have hempty : run.isEmpty = false := List.isEmpty_eq_false_iff.2 hne
  cases hcs : run ++ rest with
  | nil => exact absurd (List.append_eq_nil_iff.1 hcs).1 hne
  | cons c more =>
    rw [hcs] at hrun
    simp only [digits, hrun, hempty]
    rw [← hcs, List.drop_left]
    rfl

theorem valueOf_eq {run : List Char} (h : ∀ c ∈ run, Text.isDigit c) :
    valueOf run = Text.decimalValue run := by
  have hfold : Text.foldDigits 10 0 run = some (Text.decimalValue run) :=
    Text.foldDigits_eq_some_iff.2 ⟨h, by omega⟩
  rw [valueOf, hfold]
  rfl

theorem valueOf_zeroPad (width n : Nat) :
    valueOf (Text.zeroPad width (Nat.toDigits 10 n)) = n := by
  rw [valueOf, Text.foldDigits_zeroPad (by omega) (by omega)]
  rfl

/-- A padded number is read up to its end. -/
theorem digits_zeroPad {most width n : Nat} {rest : List Char} (hwidth : 0 < width)
    (hn : n < 10 ^ width) (hle : width ≤ most) (hstop : width = most ∨ StopsDigits rest) :
    digits most (Text.zeroPad width (Nat.toDigits 10 n) ++ rest) =
      .ok (Text.zeroPad width (Nat.toDigits 10 n), rest) := by
  have hlength := Text.length_zeroPad_toDigits (by omega : 1 < 10) hwidth hn
  refine digits_append (Text.zeroPad_ne_nil width n) (fun c => Text.isDigit_of_mem_zeroPad) ?_ ?_
  · omega
  · rwa [hlength]

/-! ### Fractions of a second -/

/-- Digits behind the ninth do not change what is written in nanoseconds. -/
theorem cutNanos_eq {digits : List Char} (h : ∀ c ∈ digits, Text.isDigit c) :
    TimeText.cutNanos digits =
      Text.decimalValue (digits.take 9) * 10 ^ (9 - (digits.take 9).length) := by
  have hnanos : nanosPerSecond = 10 ^ 9 := rfl
  rw [TimeText.cutNanos, hnanos]
  by_cases hshort : digits.length ≤ 9
  · have hpower : 10 ^ 9 = 10 ^ (9 - digits.length) * 10 ^ digits.length := by
      rw [← pow_add, Nat.sub_add_cancel hshort]
    rw [List.take_of_length_le hshort, hpower, ← Nat.mul_assoc,
      Nat.mul_div_cancel _ (Nat.pow_pos (by decide))]
  · have hlength : (digits.take 9).length = 9 := List.length_take_of_le (by omega)
    have hbehind : Text.decimalValue (digits.drop 9) < 10 ^ (digits.drop 9).length :=
      Text.decimalValue_lt fun c hmem => h c (List.mem_of_mem_drop hmem)
    have hsplit := Text.decimalValue_append (digits.take 9) (digits.drop 9)
    have hpower : 10 ^ digits.length = 10 ^ (digits.drop 9).length * 10 ^ 9 := by
      rw [← pow_add, List.length_drop, Nat.sub_add_cancel (by omega)]
    rw [List.take_append_drop] at hsplit
    rw [hpower, Nat.mul_div_mul_right _ _ (Nat.pow_pos (by decide)), hsplit, hlength, Nat.sub_self,
      pow_zero, mul_one, Nat.add_comm, Nat.add_mul_div_right _ _ (Nat.pow_pos (by decide)),
      Nat.div_eq_of_lt hbehind, Nat.zero_add]

/-- All the digits behind a point are read, and cut off behind the ninth. -/
theorem fractionNanos_append {run rest : List Char} (hne : run ≠ [])
    (hdigits : ∀ c ∈ run, Text.isDigit c) (hstop : StopsDigits rest) :
    fractionNanos (run ++ rest) = .ok (TimeText.cutNanos run, rest) := by
  have hfirst : ∀ c ∈ run.take 9, Text.isDigit c :=
    fun c hmem => hdigits c (List.mem_of_mem_take hmem)
  have hread : digits 9 (run.take 9 ++ (run.drop 9 ++ rest)) =
      .ok (run.take 9, run.drop 9 ++ rest) := by
    refine digits_append (by simpa using hne) hfirst (List.length_take_le 9 _) ?_
    by_cases hshort : run.length ≤ 9
    · rw [List.drop_of_length_le hshort]
      exact .inr hstop
    · exact .inl (List.length_take_of_le (by omega))
  have hrest : (run.drop 9 ++ rest).dropWhile Text.isDigit = rest := by
    rw [List.dropWhile_append_of_pos fun c hmem => hdigits c (List.mem_of_mem_drop hmem)]
    exact hstop.dropWhile
  rw [← List.append_assoc, List.take_append_drop] at hread
  unfold fractionNanos
  rw [hread, cutNanos_eq hdigits, ← valueOf_eq hfirst]
  show Except.ok (_, (run.drop 9 ++ rest).dropWhile Text.isDigit) = _
  rw [hrest]
  rfl

/-- A fraction of a second is read up to what is neither a digit nor a point. -/
theorem optionalFraction_append {fraction : Option (List Char)} {c : Char} {rest : List Char}
    (hfraction : ∀ run ∈ fraction, run ≠ [] ∧ ∀ c ∈ run, Text.isDigit c)
    (hpoint : c ≠ '.') (hdigit : ¬ Text.isDigit c) :
    optionalFraction (fraction.elim [] ('.' :: ·) ++ c :: rest) =
      .ok (fraction.elim 0 TimeText.cutNanos, c :: rest) := by
  cases fraction with
  | none =>
    show optionalFraction (c :: rest) = .ok (0, c :: rest)
    unfold optionalFraction
    split
    · rename_i hmatch
      exact absurd (List.cons.inj hmatch).1 hpoint
    · rfl
  | some run =>
    obtain ⟨hne, hdigits⟩ := hfraction run rfl
    refine fractionNanos_append hne hdigits fun other hmem => ?_
    obtain rfl := Option.some.inj hmem
    exact hdigit

end WrittenTime

/-! ### Printed fractions -/

namespace Instant

/-- The digits with which the nanoseconds of a second are printed, if any are. -/
def fractionRun (nanos : Nat) : Option (List Char) :=
  if nanos = 0 then none
  else if nanos % 1000000 = 0 then some (Text.zeroPad 3 (Nat.toDigits 10 (nanos / 1000000)))
  else if nanos % 1000 = 0 then some (Text.zeroPad 6 (Nat.toDigits 10 (nanos / 1000)))
  else some (Text.zeroPad 9 (Nat.toDigits 10 nanos))

theorem toList_fractionText (nanos : Nat) :
    (fractionText nanos).toList = (fractionRun nanos).elim [] ('.' :: ·) := by
  unfold fractionText fractionRun
  split_ifs <;> simp [Text.toList_paddedDecimal]

theorem exists_of_mem_fractionRun {nanos : Nat} {run : List Char} (h : run ∈ fractionRun nanos) :
    ∃ width n, run = Text.zeroPad width (Nat.toDigits 10 n) := by
  unfold fractionRun at h
  split_ifs at h
  · cases h
  all_goals exact ⟨_, _, (Option.some.inj h).symm⟩

theorem isDigit_fractionRun {nanos : Nat} :
    ∀ run ∈ fractionRun nanos, run ≠ [] ∧ ∀ c ∈ run, Text.isDigit c := by
  intro run hmem
  obtain ⟨width, n, rfl⟩ := exists_of_mem_fractionRun hmem
  exact ⟨Text.zeroPad_ne_nil width n, fun c => Text.isDigit_of_mem_zeroPad⟩

/-- Whatever number of digits is printed, nothing is cut off. -/
theorem cutNanos_fractionRun {nanos : Nat} (h : nanos < nanosPerSecond) :
    (fractionRun nanos).elim 0 TimeText.cutNanos = nanos := by
  have hexact : ∀ width n, 0 < width → n < 10 ^ width → n * nanosPerSecond = nanos * 10 ^ width →
      TimeText.cutNanos (Text.zeroPad width (Nat.toDigits 10 n)) = nanos := by
    intro width n hwidth hn heq
    rw [TimeText.cutNanos, Text.decimalValue_zeroPad,
      Text.length_zeroPad_toDigits (by omega) hwidth hn, heq,
      Nat.mul_div_cancel _ (Nat.pow_pos (by decide))]
  unfold nanosPerSecond at h hexact
  unfold fractionRun
  split_ifs with hzero hthree hsix
  · exact hzero.symm
  · exact hexact 3 _ (by decide) (by omega) (by omega)
  · exact hexact 6 _ (by decide) (by omega) (by omega)
  · exact hexact 9 _ (by decide) (by omega) (by omega)

end Instant

/-- A fraction of a second is read as it was, whatever number of digits it was written with. -/
theorem WrittenTime.optionalFraction_fractionText {nanos : Nat} (hnanos : nanos < nanosPerSecond)
    {c : Char} {rest : List Char} (hpoint : c ≠ '.') (hdigit : ¬ Text.isDigit c) :
    optionalFraction ((Instant.fractionText nanos).toList ++ c :: rest) =
      .ok (nanos, c :: rest) := by
  rw [Instant.toList_fractionText,
    optionalFraction_append Instant.isDigit_fractionRun hpoint hdigit,
    Instant.cutNanos_fractionRun hnanos]

end ClusterSim
