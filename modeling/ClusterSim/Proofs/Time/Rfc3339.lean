import ClusterSim.Proofs.Time.Instant
import ClusterSim.Proofs.Time.Notation
import ClusterSim.Proofs.Time.Reading
import Mathlib.Data.List.Basic

/-!
# Reading the form of RFC 3339

Each reader takes exactly what the notation allows off the front of the characters, as an
equivalence with a lemma for every reader. Together they read exactly the well-formed times whose
date, time of day and offset exist, each as the instant that it names
(`Instant.parseStrict_eq_ok_iff`), and all of these name an instant
(`TimeText.WellFormed.exists_names`).
-/

namespace ClusterSim

namespace WrittenTime

/-! ### One reader after another -/

theorem bind_eq_ok_iff {α β : Type} {reader : Except TimeFault (α × List Char)}
    {next : α × List Char → Except TimeFault β} {result : β} :
    (reader >>= next) = .ok result ↔
      ∃ value rest, reader = .ok (value, rest) ∧ next (value, rest) = .ok result := by
  cases reader with
  | error fault => simp [bind, Except.bind]
  | ok pair =>
    obtain ⟨value, rest⟩ := pair
    simp [bind, Except.bind]

theorem ite_throw_eq_ok_iff {β : Type} {condition : Prop} [Decidable condition] {fault : TimeFault}
    {next : PUnit → Except TimeFault β} {result : β} :
    (if condition then (throw fault : Except TimeFault PUnit) >>= next else next ()) = .ok result ↔
      ¬ condition ∧ next () = .ok result := by
  split
  · rename_i h
    simp [bind, Except.bind, throw, throwThe, MonadExceptOf.throw, h]
  · rename_i h
    simp [h]

/-! ### Marks and digits -/

theorem oneOf_eq_ok_iff {allowed cs rest : List Char} {value : Unit} :
    oneOf allowed cs = .ok (value, rest) ↔ ∃ c ∈ allowed, cs = c :: rest := by
  cases cs with
  | nil => simp [oneOf]
  | cons c more =>
    rw [oneOf]
    split
    · rename_i hmem
      rw [List.contains_iff_mem] at hmem
      constructor
      · intro h
        obtain ⟨-, rfl⟩ := Prod.mk.inj (Except.ok.inj h)
        exact ⟨c, hmem, rfl⟩
      · rintro ⟨other, -, heq⟩
        rw [(List.cons.inj heq).2]
    · rename_i hmem
      rw [List.contains_iff_mem] at hmem
      refine iff_of_false nofun ?_
      rintro ⟨other, hother, heq⟩
      exact hmem ((List.cons.inj heq).1 ▸ hother)

theorem fixedDigits_eq_ok_iff_foldDigits {count seen n : Nat} {cs rest : List Char} :
    fixedDigits count seen cs = .ok (n, rest) ↔
      ∃ run, cs = run ++ rest ∧ run.length = count ∧ Text.foldDigits 10 seen run = some n := by
  induction count generalizing seen cs with
  | zero =>
    rw [fixedDigits]
    constructor
    · intro h
      obtain ⟨rfl, rfl⟩ := Prod.mk.inj (Except.ok.inj h)
      exact ⟨[], rfl, rfl, rfl⟩
    · rintro ⟨run, rfl, hlength, hfold⟩
      rw [List.length_eq_zero_iff] at hlength
      subst hlength
      rw [Option.some.inj hfold]
      rfl
  | succ count ih =>
    cases cs with
    | nil =>
      refine iff_of_false nofun ?_
      rintro ⟨run, hnil, hlength, -⟩
      rw [(List.append_eq_nil_iff.1 hnil.symm).1] at hlength
      cases hlength
    | cons c more =>
      rw [fixedDigits]
      cases hvalue : Text.digitValue? 10 c with
      | none =>
        refine iff_of_false nofun ?_
        rintro ⟨run, heq, hlength, hfold⟩
        cases run with
        | nil => cases hlength
        | cons first run =>
          obtain ⟨rfl, -⟩ := List.cons.inj heq
          rw [Text.foldDigits, hvalue] at hfold
          cases hfold
      | some d =>
        show fixedDigits count (seen * 10 + d) more = _ ↔ _
        rw [ih]
        constructor
        · rintro ⟨run, rfl, hlength, hfold⟩
          refine ⟨c :: run, rfl, by rw [List.length_cons, hlength], ?_⟩
          rw [Text.foldDigits, hvalue]
          exact hfold
        · rintro ⟨run, heq, hlength, hfold⟩
          cases run with
          | nil => cases hlength
          | cons first run =>
            obtain ⟨rfl, hmore⟩ := List.cons.inj heq
            rw [Text.foldDigits, hvalue] at hfold
            exact ⟨run, hmore, Nat.succ.inj hlength, hfold⟩

theorem fixedDigits_eq_ok_iff {places n : Nat} {cs rest : List Char} :
    fixedDigits places 0 cs = .ok (n, rest) ↔
      ∃ run, cs = run ++ rest ∧ IsNumeral places run ∧ n = Text.decimalValue run := by
  simp only [fixedDigits_eq_ok_iff_foldDigits, Text.foldDigits_eq_some_iff, Nat.zero_mul,
    Nat.zero_add]
  constructor
  · rintro ⟨run, heq, hlength, hdigits, hn⟩
    exact ⟨run, heq, ⟨hlength, hdigits⟩, hn⟩
  · rintro ⟨run, heq, hnumeral, hn⟩
    exact ⟨run, heq, hnumeral.length_eq, hnumeral.isDigit, hn⟩

/-- Two digits are read one by one. -/
theorem twoDigits_eq_ok_iff {tens ones : Nat} {cs rest : List Char} :
    twoDigits cs = .ok ((tens, ones), rest) ↔
      ∃ run, cs = run ++ rest ∧ IsNumeral 2 run ∧
        tens = Text.decimalValue run / 10 ∧ ones = Text.decimalValue run % 10 := by
  have hvalues : ∀ first second, Text.isDigit first → Text.isDigit second →
      valueOf [first] = Text.decimalValue [first, second] / 10 ∧
        valueOf [second] = Text.decimalValue [first, second] % 10 := by
    intro first second hfirst hsecond
    have hone : ∀ c ∈ [second], Text.isDigit c := by simpa using hsecond
    have hlt : Text.decimalValue [second] < 10 := Text.decimalValue_lt hone
    have hpair : Text.decimalValue [first, second] =
        Text.decimalValue [first] * 10 + Text.decimalValue [second] :=
      Text.decimalValue_append [first] [second]
    rw [valueOf_eq hone, valueOf_eq (by simpa using hfirst), hpair]
    omega
  constructor
  · intro h
    unfold twoDigits at h
    split at h
    · rename_i first second more
      split at h
      · rename_i hdigits
        rw [Bool.and_eq_true] at hdigits
        obtain ⟨hpair, rfl⟩ := Prod.mk.inj (Except.ok.inj h)
        obtain ⟨rfl, rfl⟩ := Prod.mk.inj hpair
        refine ⟨[first, second], rfl, ⟨rfl, ?_⟩, hvalues first second hdigits.1 hdigits.2⟩
        simpa using hdigits
      · cases h
    · split at h <;> cases h
  · rintro ⟨run, rfl, ⟨hlength, hdigits⟩, rfl, rfl⟩
    obtain ⟨first, second, rfl⟩ := List.length_eq_two.1 hlength
    have hboth : Text.isDigit first ∧ Text.isDigit second := by simpa using hdigits
    obtain ⟨htens, hones⟩ := hvalues first second hboth.1 hboth.2
    show twoDigits (first :: second :: rest) = _
    rw [twoDigits, if_pos (by simpa using hboth), htens, hones]

/-! ### Offsets -/

theorem offsetMinutes_sign_eq_ok_iff {sign : Char} (hsign : sign ∈ ['+', '-', '\u2212'])
    {offset : Int} {cs rest : List Char} :
    offsetMinutes (oneOf [':']) (sign :: cs) = .ok (offset, rest) ↔
      ∃ hours minutes, cs = hours ++ ':' :: (minutes ++ rest) ∧ IsNumeral 2 hours ∧
        IsNumeral 2 minutes ∧ Text.decimalValue minutes < 60 ∧
        offset = (WrittenZone.offset sign hours minutes).minutesEast := by
  have hletter : ¬ (sign = 'Z' || sign = 'z') := by
    rintro h
    simp only [List.mem_cons, List.not_mem_nil, or_false] at hsign
    rcases hsign with rfl | rfl | rfl <;> exact absurd h (by decide)
  have hgiven : sign = '+' || sign = '-' || sign = '\u2212' := by simpa [or_assoc] using hsign
  rw [offsetMinutes, if_neg hletter, if_pos hgiven]
  simp only [bind_eq_ok_iff, Prod.exists, twoDigits_eq_ok_iff, oneOf_eq_ok_iff, List.mem_singleton]
  constructor
  · rintro ⟨_, _, _, ⟨hours, rfl, hhours, rfl, rfl⟩, _, _, ⟨_, rfl, rfl⟩, _, _, _,
      ⟨minutes, rfl, hminutes, rfl, rfl⟩, h⟩
    split at h
    · cases h
    · obtain ⟨rfl, rfl⟩ := Prod.mk.inj (Except.ok.inj h)
      refine ⟨hours, minutes, rfl, hhours, hminutes, by omega, ?_⟩
      rw [WrittenZone.minutesEast]
      split <;> omega
  · rintro ⟨hours, minutes, rfl, hhours, hminutes, hlt, rfl⟩
    refine ⟨_, _, _, ⟨hours, rfl, hhours, rfl, rfl⟩, (), _, ⟨_, rfl, rfl⟩, _, _, _,
      ⟨minutes, rfl, hminutes, rfl, rfl⟩, ?_⟩
    rw [if_neg (by omega), WrittenZone.minutesEast]
    congr 2
    split <;> omega

/-- Exactly the zones with minutes of an hour are read. -/
theorem offsetMinutes_eq_ok_iff {offset : Int} {cs rest : List Char} :
    offsetMinutes (oneOf [':']) cs = .ok (offset, rest) ↔
      ∃ zone : WrittenZone, cs = zone.chars ++ rest ∧ zone.WellFormed ∧ zone.minutePart < 60 ∧
        offset = zone.minutesEast := by
  constructor
  · intro h
    cases cs with
    | nil => cases h
    | cons first more =>
      by_cases hsign : first ∈ ['+', '-', '\u2212']
      · obtain ⟨hours, minutes, rfl, hhours, hminutes, hlt, rfl⟩ :=
          (offsetMinutes_sign_eq_ok_iff hsign).1 h
        refine ⟨.offset first hours minutes, ?_, ⟨hsign, hhours, hminutes⟩, hlt, rfl⟩
        simp [WrittenZone.chars]
      · have hgiven : ¬ (first = '+' || first = '-' || first = '\u2212') := by
          simpa [or_assoc] using hsign
        rw [offsetMinutes, if_neg hgiven] at h
        split at h
        · rename_i hletter
          obtain ⟨rfl, rfl⟩ := Prod.mk.inj (Except.ok.inj h)
          have hwell : (WrittenZone.universal first).WellFormed :=
            WrittenZone.wellFormed_universal.2 (by simpa using hletter)
          exact ⟨.universal first, rfl, hwell, Nat.zero_lt_succ _, rfl⟩
        · cases h
  · rintro ⟨letter | ⟨sign, hours, minutes⟩, rfl, hwell, hlt, rfl⟩
    · have hletter : letter = 'Z' || letter = 'z' := by
        simpa using WrittenZone.wellFormed_universal.1 hwell
      show offsetMinutes (oneOf [':']) (letter :: rest) = _
      rw [offsetMinutes, if_pos hletter]
      rfl
    · obtain ⟨hsign, hhours, hminutes⟩ := hwell
      refine (offsetMinutes_sign_eq_ok_iff hsign).2 ⟨hours, minutes, ?_, hhours, hminutes, hlt, rfl⟩
      simp

/-! ### Fractions -/

theorem fractionNanos_ne_ok {cs rest : List Char} {nanos : Nat} (hstop : StopsDigits cs) :
    fractionNanos cs ≠ .ok (nanos, rest) := by
  intro h
  cases cs with
  | nil => cases h
  | cons c more =>
    have hnone : ((c :: more).take 9).takeWhile Text.isDigit = [] := hstop.takeWhile 9
    have hfail : digits 9 (c :: more) = .error .invalid := by
      rw [digits, hnone]
      rfl
    unfold fractionNanos at h
    rw [hfail] at h
    cases h

/-- Only digits behind a point are read as a fraction. -/
theorem exists_of_optionalFraction {cs rest : List Char} {nanos : Nat}
    (h : optionalFraction cs = .ok (nanos, rest)) :
    ∃ fraction : Option (List Char), cs = fraction.elim [] ('.' :: ·) ++ rest ∧
      (∀ run ∈ fraction, run ≠ [] ∧ ∀ c ∈ run, Text.isDigit c) ∧
      nanos = fraction.elim 0 TimeText.cutNanos := by
  unfold optionalFraction at h
  split at h
  · rename_i more
    -- the fraction ends at the first character that is not a digit
    have hstop := stopsDigits_dropWhile more
    have hrun : ∀ c ∈ more.takeWhile Text.isDigit, Text.isDigit c :=
      fun c hmem => List.mem_takeWhile_imp hmem
    rw [← List.takeWhile_append_dropWhile (p := Text.isDigit) (l := more)] at h ⊢
    generalize more.takeWhile Text.isDigit = run at h hrun ⊢
    generalize more.dropWhile Text.isDigit = back at h hstop ⊢
    have hne : run ≠ [] := by
      rintro rfl
      exact fractionNanos_ne_ok hstop h
    rw [fractionNanos_append hne hrun hstop] at h
    obtain ⟨rfl, rfl⟩ := Prod.mk.inj (Except.ok.inj h)
    refine ⟨some run, rfl, ?_, rfl⟩
    intro other hmem
    obtain rfl := Option.some.inj hmem
    exact ⟨hne, hrun⟩
  · obtain ⟨rfl, rfl⟩ := Prod.mk.inj (Except.ok.inj h)
    exact ⟨none, rfl, nofun, rfl⟩

end WrittenTime

/-! ### The whole time -/

/-- A zone begins neither with a point nor with a digit. -/
theorem WrittenZone.WellFormed.exists_cons {zone : WrittenZone} (h : zone.WellFormed) :
    ∃ c rest, zone.chars = c :: rest ∧ c ≠ '.' ∧ ¬ Text.isDigit c := by
  cases zone with
  | universal letter =>
    refine ⟨letter, [], rfl, ?_⟩
    rcases wellFormed_universal.1 h with rfl | rfl <;> decide
  | offset sign hours minutes =>
    have hsign : sign = '+' ∨ sign = '-' ∨ sign = '\u2212' := by simpa using h.1
    refine ⟨sign, _, rfl, ?_⟩
    rcases hsign with rfl | rfl | rfl <;> decide

namespace TimeText

/-- The parts of a written time, as they are read. -/
def written (text : TimeText) : WrittenTime where
  date := ⟨Text.decimalValue text.year, Text.decimalValue text.month, Text.decimalValue text.day⟩
  hour := Text.decimalValue text.hour
  minute := Text.decimalValue text.minute
  second := Text.decimalValue text.second
  fraction := text.fraction.elim 0 cutNanos
  offset := text.zone.minutesEast

theorem WellFormed.strictLength_le {text : TimeText} (h : text.WellFormed) :
    WrittenTime.strictLength ≤ text.chars.length := by
  unfold chars WrittenTime.strictLength
  simp only [List.length_append, List.length_cons, h.year.length_eq, h.month.length_eq,
    h.day.length_eq, h.hour.length_eq, h.minute.length_eq, h.second.length_eq]
  omega

end TimeText

namespace WrittenTime

theorem length_le_byteCount (cs : List Char) : cs.length ≤ byteCount cs := by
  have hseen : ∀ seen, seen + cs.length ≤ cs.foldl (fun n c => n + c.utf8Size) seen := by
    induction cs with
    | nil => exact fun seen => Nat.le_refl seen
    | cons c rest ih =>
      intro seen
      have hpos := c.utf8Size_pos
      have hle := ih (seen + c.utf8Size)
      rw [List.length_cons, List.foldl_cons]
      omega
  have hzero := hseen 0
  rwa [Nat.zero_add] at hzero

/-- Exactly the well-formed times with a date, a time of day and minutes of an offset that exist are
read. -/
theorem readStrict_eq_ok_iff {cs : List Char} {time : WrittenTime} :
    readStrict cs = .ok time ↔
      ∃ text : TimeText, text.WellFormed ∧ cs = text.chars ∧ time = text.written ∧
        time.date.isValid ∧ isTimeOfDay time.hour time.minute time.second ∧
        text.zone.minutePart < 60 := by
  unfold readStrict
  simp only [bind_eq_ok_iff, ite_throw_eq_ok_iff, fixedDigits_eq_ok_iff, oneOf_eq_ok_iff,
    offsetMinutes_eq_ok_iff, List.mem_singleton, exists_eq_left, not_not]
  -- one step for each number, with the mark behind it
  constructor
  · rintro ⟨-, _, _, ⟨year, rfl, hyear, rfl⟩, _, _, rfl, h⟩
    obtain ⟨_, _, ⟨month, rfl, hmonth, rfl⟩, _, _, rfl, h⟩ := h
    obtain ⟨_, _, ⟨day, rfl, hday, rfl⟩, hdate, _, _, ⟨separator, hseparator, rfl⟩, h⟩ := h
    obtain ⟨_, _, ⟨hour, rfl, hhour, rfl⟩, _, _, rfl, h⟩ := h
    obtain ⟨_, _, ⟨minute, rfl, hminute, rfl⟩, _, _, rfl, h⟩ := h
    obtain ⟨_, _, ⟨second, rfl, hsecond, rfl⟩, _, _, hfraction, htime, h⟩ := h
    obtain ⟨_, rest, ⟨zone, rfl, hzone, hminutes, rfl⟩, hend, h⟩ := h
    obtain ⟨fraction, rfl, hdigits, rfl⟩ := exists_of_optionalFraction hfraction
    obtain rfl := List.isEmpty_iff.1 hend
    obtain rfl := Except.ok.inj h
    refine ⟨⟨year, month, day, separator, hour, minute, second, fraction, zone⟩, ?_, ?_, rfl, hdate,
      htime, hminutes⟩
    · exact ⟨hyear, hmonth, hday, hseparator, hhour, hminute, hsecond, hdigits, hzone⟩
    · rw [List.append_nil]
      rfl
  · rintro ⟨text, hwell, rfl, rfl, hdate, htime, hminutes⟩
    have hlong : ¬ byteCount text.chars < strictLength :=
      Nat.not_lt.2 (Nat.le_trans hwell.strictLength_le (length_le_byteCount _))
    obtain ⟨c, rest, hchars, hpoint, hdigit⟩ := hwell.zone.exists_cons
    have hfraction : optionalFraction (text.fraction.elim [] ('.' :: ·) ++ text.zone.chars) =
        .ok (text.written.fraction, text.zone.chars) := by
      rw [hchars]
      exact optionalFraction_append hwell.fraction hpoint hdigit
    have hrest : text.zone.chars = text.zone.chars ++ [] := (List.append_nil _).symm
    refine ⟨hlong, _, _, ⟨_, rfl, hwell.year, rfl⟩, (), _, rfl, ?_⟩
    refine ⟨_, _, ⟨_, rfl, hwell.month, rfl⟩, (), _, rfl, ?_⟩
    refine ⟨_, _, ⟨_, rfl, hwell.day, rfl⟩, hdate, (), _, ⟨_, hwell.separator_mem, rfl⟩, ?_⟩
    refine ⟨_, _, ⟨_, rfl, hwell.hour, rfl⟩, (), _, rfl, ?_⟩
    refine ⟨_, _, ⟨_, rfl, hwell.minute, rfl⟩, (), _, rfl, ?_⟩
    refine ⟨_, _, ⟨_, rfl, hwell.second, rfl⟩, _, _, hfraction, htime, ?_⟩
    exact ⟨_, [], ⟨text.zone, hrest, hwell.zone, hminutes, rfl⟩, rfl, rfl⟩

end WrittenTime

/-! ### The instant -/

theorem WrittenTime.toInstant_eq_ok_iff {time : WrittenTime} {t : Instant} :
    time.toInstant = .ok t ↔ time.isValid ∧ time.offset.natAbs < 24 * 60 ∧
      t.seconds = time.localParts.1 - time.offset * 60 ∧ t.nanos = time.localParts.2 := by
  unfold toInstant
  split
  · rename_i hinvalid
    exact iff_of_false nofun fun h => hinvalid h.1
  · rename_i hvalid
    rw [not_not] at hvalid
    split
    · rename_i hlong
      exact iff_of_false nofun fun h => absurd h.2.1 (Nat.not_lt.2 hlong)
    · rename_i hshort
      rw [← Instant.ofParts?_eq_some_iff]
      simp only [hvalid, Nat.not_le.1 hshort, true_and]
      split <;> simp_all

theorem WrittenTime.isValid_iff {time : WrittenTime} :
    time.isValid ↔ time.date.isValid ∧ (-262143 ≤ time.date.year ∧ time.date.year ≤ 262142) ∧
      isTimeOfDay time.hour time.minute time.second := by
  simp [isValid, and_assoc]

theorem WrittenTime.isTimeOfDay_iff {hour minute second : Nat} :
    isTimeOfDay hour minute second ↔ hour < 24 ∧ minute < 60 ∧ second ≤ 60 := by
  simp [isTimeOfDay, and_assoc]

namespace TimeText

variable {text : TimeText} {t : Instant}

theorem exists_iff : text.Exists ↔ text.written.date.isValid ∧
    WrittenTime.isTimeOfDay text.written.hour text.written.minute text.written.second ∧
    text.zone.Exists := by
  rw [Date.isValid_iff, WrittenTime.isTimeOfDay_iff]
  constructor
  · intro h
    exact ⟨⟨h.month_mem, h.day_mem⟩, ⟨h.hour_lt, h.minute_lt, h.second_le⟩, h.zone⟩
  · rintro ⟨⟨hmonth, hday⟩, ⟨hhour, hminute, hsecond⟩, hzone⟩
    exact ⟨hmonth, hday, hhour, hminute, hsecond, hzone⟩

theorem WellFormed.year_lt (h : text.WellFormed) : Text.decimalValue text.year < 10 ^ 4 := by
  have hlt := Text.decimalValue_lt h.year.isDigit
  rwa [h.year.length_eq] at hlt

/-- A year of four digits is one that instants reach. -/
theorem WellFormed.year_mem (h : text.WellFormed) :
    -262143 ≤ text.written.date.year ∧ text.written.date.year ≤ 262142 := by
  have hlt := h.year_lt
  show -262143 ≤ (Text.decimalValue text.year : Int) ∧ (Text.decimalValue text.year : Int) ≤ 262142
  omega

theorem localParts_written (h : text.Exists) :
    text.written.localParts = (text.localSeconds, text.nanos) := by
  have hdays : text.written.date.toDays = text.localDays :=
    Date.toDays_eq h.month_mem h.day_mem.1
  have hsecond : (if text.written.second = 60 then 59 else text.written.second) =
      min (Text.decimalValue text.second) 59 := by
    have hle : text.written.second ≤ 60 := h.second_le
    show _ = min text.written.second 59
    split <;> omega
  unfold WrittenTime.localParts localSeconds secondsPerDay
  rw [hdays]
  simp only [hsecond]
  refine Prod.ext ?_ rfl
  simp only [written]
  omega

/-- The parts that are read make up the instant that the time names. -/
theorem WellFormed.names_iff (h : text.WellFormed) :
    text.Names t ↔ text.Exists ∧ text.written.toInstant = .ok t := by
  rw [WrittenTime.toInstant_eq_ok_iff, WrittenTime.isValid_iff]
  constructor
  · rintro ⟨hexists, hseconds, hnanos⟩
    obtain ⟨hdate, htime, hzone⟩ := exists_iff.1 hexists
    rw [localParts_written hexists]
    exact ⟨hexists, ⟨hdate, h.year_mem, htime⟩, (WrittenZone.exists_iff.1 hzone).2, hseconds,
      hnanos⟩
  · rintro ⟨hexists, -, -, hseconds, hnanos⟩
    rw [localParts_written hexists] at hseconds hnanos
    exact ⟨hexists, hseconds, hnanos⟩

/-! ### Every time that exists names an instant -/

theorem cutNanos_lt {digits : List Char} (h : ∀ c ∈ digits, Text.isDigit c) :
    cutNanos digits < nanosPerSecond := by
  unfold cutNanos
  rw [Nat.div_lt_iff_lt_mul (Nat.pow_pos (by decide)), Nat.mul_comm]
  exact Nat.mul_lt_mul_of_pos_left (Text.decimalValue_lt h) (by decide)

theorem WellFormed.fraction_lt (h : text.WellFormed) :
    text.fraction.elim 0 cutNanos < nanosPerSecond := by
  cases hfraction : text.fraction with
  | none => decide
  | some run => exact cutNanos_lt (h.fraction run hfraction).2

theorem Exists.localDays_mem (h : text.Exists) (hyear : Text.decimalValue text.year < 10 ^ 4) :
    -719528 ≤ text.localDays ∧ text.localDays < 4000000 := by
  have hyears := Date.daysOfYears_eq (Text.decimalValue text.year)
  have hmonths := Date.daysOfMonths_eq (Text.decimalValue text.year) h.month_mem.1 h.month_mem.2
  have hfebruary := Date.daysInMonth_le (Text.decimalValue text.year) 2
  have hday := Nat.le_trans h.day_mem.2 (Date.daysInMonth_le _ _)
  have hmonth := h.month_mem.2
  unfold localDays
  rw [Date.daysBefore_epoch, Date.daysBefore]
  split at hmonths <;> omega

/-- A time that exists names an instant. -/
theorem WellFormed.exists_names (h : text.WellFormed) (hexists : text.Exists) :
    ∃ t, text.Names t := by
  have hdays := hexists.localDays_mem h.year_lt
  have hzone := (WrittenZone.exists_iff.1 hexists.zone).2
  have hfraction := h.fraction_lt
  have hhour := hexists.hour_lt
  have hminute := hexists.minute_lt
  have hsecond := hexists.second_le
  refine ⟨⟨text.localSeconds - text.zone.minutesEast * 60, text.nanos, ?_, ?_, ?_, ?_⟩, hexists,
    rfl, rfl⟩
  · unfold earliestSecond localSeconds
    omega
  · unfold latestSecond localSeconds
    omega
  · unfold nanos
    split <;> omega
  · intro hleap
    unfold nanos at hleap
    unfold localSeconds
    split at hleap <;> omega

end TimeText

/-- A text is read exactly if it is a time, and then as the instant that the time names. -/
theorem Instant.parseStrict_eq_ok_iff {s : String} {t : Instant} :
    parseStrict s = .ok t ↔
      ∃ text : TimeText, text.WellFormed ∧ s.toList = text.chars ∧ text.Names t := by
  have hbind : parseStrict s = .ok t ↔
      ∃ time, WrittenTime.readStrict s.toList = .ok time ∧ time.toInstant = .ok t := by
    unfold parseStrict
    cases WrittenTime.readStrict s.toList <;> simp [bind, Except.bind]
  rw [hbind]
  constructor
  · rintro ⟨time, hread, ht⟩
    obtain ⟨text, hwell, hchars, rfl, hdate, htime, hminutes⟩ :=
      WrittenTime.readStrict_eq_ok_iff.1 hread
    obtain ⟨-, hoffset, -⟩ := WrittenTime.toInstant_eq_ok_iff.1 ht
    have hzone : text.zone.Exists := WrittenZone.exists_iff.2 ⟨hminutes, hoffset⟩
    exact ⟨text, hwell, hchars, hwell.names_iff.2 ⟨TimeText.exists_iff.2 ⟨hdate, htime, hzone⟩, ht⟩⟩
  · rintro ⟨text, hwell, hchars, hnames⟩
    obtain ⟨hexists, ht⟩ := hwell.names_iff.1 hnames
    obtain ⟨hdate, htime, hzone⟩ := TimeText.exists_iff.1 hexists
    exact ⟨text.written, WrittenTime.readStrict_eq_ok_iff.2
      ⟨text, hwell, hchars, rfl, hdate, htime, hzone.2⟩, ht⟩

end ClusterSim
