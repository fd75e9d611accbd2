import ClusterSim.Proofs.Time.Rfc3339
import ClusterSim.Time.Clock

/-!
# Starts survive printing

What is printed of an instant is a time that names it (`Instant.names_printed`), and a start is read
as the instant that is named by the time in its text (`ClockStart.parse_eq_at_iff`). So an instant
with a year of four digits is read back from what is printed of it.
-/

namespace ClusterSim

/-! ### Printed instants -/

namespace Instant

/-- The year of an instant in Universal Time. -/
def year (t : Instant) : Int := (Date.ofDays (t.seconds / secondsPerDay)).year

/-- Whether the year is printed with four digits and no sign. -/
def HasPlainYear (t : Instant) : Prop := 0 ≤ t.year ∧ t.year ≤ 9999

instance (t : Instant) : Decidable t.HasPlainYear := inferInstanceAs (Decidable (_ ∧ _))

/-- What is printed of an instant, with its offset. -/
def printed (t : Instant) : TimeText where
  year := Text.zeroPad 4 (Nat.toDigits 10 t.written.date.year.natAbs)
  month := twoPlaces t.written.date.month
  day := twoPlaces t.written.date.day
  separator := 'T'
  hour := twoPlaces t.written.hour
  minute := twoPlaces t.written.minute
  second := twoPlaces t.written.second
  fraction := fractionRun t.written.fraction
  zone := .offset '+' ['0', '0'] ['0', '0']

variable {t : Instant}

theorem toList_display (h : t.HasPlainYear) : t.display.toList = t.printed.chars := by
  have hplain : 0 ≤ t.written.date.year ∧ t.written.date.year ≤ 9999 := h
  have hyear : (yearText t.written.date.year).toList =
      Text.zeroPad 4 (Nat.toDigits 10 t.written.date.year.natAbs) := by
    rw [yearText, if_pos hplain, Text.toList_paddedDecimal]
  rw [display, toList_format, hyear, toList_fractionText]
  rfl

theorem wellFormed_printed (h : t.HasPlainYear) : t.printed.WellFormed := by
  obtain ⟨hmonth, hday⟩ := Date.le_of_isValid t.isValid_date_written
  obtain ⟨hhour, hminute, hsecond⟩ := t.timeOfDay_written
  have hyear : t.written.date.year.natAbs < 10 ^ 4 := by
    have hplain : 0 ≤ t.written.date.year ∧ t.written.date.year ≤ 9999 := h
    omega
  have hzeros : IsNumeral 2 ['0', '0'] := ⟨rfl, by simp [Text.isDigit]⟩
  exact {
    year := IsNumeral.zeroPad (by decide) hyear
    month := IsNumeral.zeroPad (by decide) (by omega)
    day := IsNumeral.zeroPad (by decide) (by omega)
    separator_mem := List.mem_cons_self
    hour := IsNumeral.zeroPad (by decide) (by omega)
    minute := IsNumeral.zeroPad (by decide) (by omega)
    second := IsNumeral.zeroPad (by decide) (by omega)
    fraction := isDigit_fractionRun
    zone := ⟨by decide, hzeros, hzeros⟩ }

theorem written_printed (h : t.HasPlainYear) : t.printed.written = t.written := by
  have hyear : ((Text.decimalValue t.printed.year : Nat) : Int) = t.written.date.year := by
    have hplain : 0 ≤ t.written.date.year := h.1
    rw [printed, Text.decimalValue_zeroPad]
    omega
  have hfraction : t.written.fraction < nanosPerSecond := Nat.mod_lt _ (by decide)
  unfold TimeText.written
  rw [hyear]
  simp only [printed, Text.decimalValue_zeroPad, cutNanos_fractionRun hfraction]
  rfl

/-- What is printed of an instant names that instant. -/
theorem names_printed (h : t.HasPlainYear) : t.printed.Names t := by
  have hzone : (WrittenZone.offset '+' ['0', '0'] ['0', '0']).Exists := by decide
  rw [(wellFormed_printed h).names_iff, TimeText.exists_iff, written_printed h,
    WrittenTime.isTimeOfDay_iff]
  exact ⟨⟨t.isValid_date_written, t.timeOfDay_written, hzone⟩, t.toInstant_written⟩

end Instant

/-! ### Times in texts -/

theorem WrittenZone.WellFormed.not_isBlank {zone : WrittenZone} (h : zone.WellFormed) {c : Char}
    (hmem : c ∈ zone.chars) : ¬ Text.isBlank c := by
  cases zone with
  | universal letter =>
    obtain rfl := List.mem_singleton.1 hmem
    rcases wellFormed_universal.1 h with rfl | rfl <;> decide
  | offset sign hours minutes =>
    obtain ⟨hsign, hhours, hminutes⟩ := h
    simp only [chars, List.mem_cons, List.mem_append, List.not_mem_nil, or_false] at hmem hsign
    rcases hmem with rfl | hmem | rfl | hmem
    · rcases hsign with rfl | rfl | rfl <;> decide
    · exact Text.not_isBlank_of_isDigit (hhours.isDigit c hmem)
    · decide
    · exact Text.not_isBlank_of_isDigit (hminutes.isDigit c hmem)

namespace TimeText

variable {text : TimeText} {raw : String}

theorem WellFormed.chars_ne_nil (h : text.WellFormed) : text.chars ≠ [] := by
  have hlength := h.strictLength_le
  intro hnil
  rw [hnil] at hlength
  exact absurd hlength (by decide)

/-- A time begins with a digit. -/
theorem WellFormed.head?_chars (h : text.WellFormed) :
    ∀ c ∈ text.chars.head?, ¬ Text.isBlank c := by
  intro c hmem
  unfold chars at hmem
  cases hyear : text.year with
  | nil => exact absurd (hyear ▸ h.year.length_eq) (by decide)
  | cons first rest =>
    rw [hyear] at hmem
    obtain rfl := Option.some.inj hmem
    have hdigit : first ∈ text.year := by rw [hyear]; exact List.mem_cons_self
    exact Text.not_isBlank_of_isDigit (h.year.isDigit first hdigit)

/-- A time ends with its zone. -/
theorem WellFormed.getLast?_chars (h : text.WellFormed) :
    ∀ c ∈ text.chars.getLast?, ¬ Text.isBlank c := by
  have hback : ∃ front, text.chars = front ++ text.zone.chars :=
    ⟨text.year ++ '-' :: (text.month ++ '-' :: (text.day ++ text.separator ::
      (text.hour ++ ':' :: (text.minute ++ ':' :: (text.second ++
        text.fraction.elim [] ('.' :: ·)))))), by simp [chars]⟩
  obtain ⟨front, hfront⟩ := hback
  obtain ⟨first, rest, hzone, -⟩ := h.zone.exists_cons
  have hne : text.zone.chars ≠ [] := by rw [hzone]; exact List.cons_ne_nil _ _
  intro c hmem
  rw [hfront, List.getLast?_append_of_ne_nil _ hne] at hmem
  exact h.zone.not_isBlank (List.mem_of_mem_getLast? hmem)

/-- What a time stands in is trimmed to it. -/
theorem standsIn_iff :
    text.StandsIn raw ↔ text.WellFormed ∧ Text.trimChars raw.toList = text.chars := by
  constructor
  · rintro ⟨h, hblanks⟩
    exact ⟨h, (Text.trimChars_eq_iff h.head?_chars h.getLast?_chars).2 hblanks⟩
  · rintro ⟨h, heq⟩
    exact ⟨h, (Text.trimChars_eq_iff h.head?_chars h.getLast?_chars).1 heq⟩

theorem StandsIn.not_allBlank (h : text.StandsIn raw) : ¬ Text.allBlank raw := by
  obtain ⟨hwell, hchars⟩ := standsIn_iff.1 h
  intro hblank
  apply hwell.chars_ne_nil
  rw [← hchars, Text.trimChars_eq_nil_iff]
  exact List.all_eq_true.1 hblank

end TimeText

/-! ### Starts -/

namespace ClockStart

variable {raw : String} {t : Instant}

theorem parse_eq_present_iff : parse raw = .ok .present ↔ Text.allBlank raw := by
  unfold parse
  split
  · rename_i hblank
    exact iff_of_true rfl hblank
  · rename_i hblank
    refine iff_of_false ?_ hblank
    split <;> nofun

/-- A time in a text, and only that, is read as the instant that it names. -/
theorem parse_eq_at_iff :
    parse raw = .ok (.at t) ↔ ∃ text : TimeText, text.StandsIn raw ∧ text.Names t := by
  have hread : parse raw = .ok (.at t) ↔
      ¬ Text.allBlank raw ∧ Instant.parseStrict (Text.trim raw) = .ok t := by
    unfold parse
    split
    · simp_all
    · cases Instant.parseStrict (Text.trim raw) <;> simp_all
  have htrim : (Text.trim raw).toList = Text.trimChars raw.toList := String.toList_ofList
  rw [hread, Instant.parseStrict_eq_ok_iff, htrim]
  constructor
  · rintro ⟨-, text, hwell, hchars, hnames⟩
    exact ⟨text, TimeText.standsIn_iff.2 ⟨hwell, hchars⟩, hnames⟩
  · rintro ⟨text, hstands, hnames⟩
    obtain ⟨hwell, hchars⟩ := TimeText.standsIn_iff.1 hstands
    exact ⟨hstands.not_allBlank, text, hwell, hchars, hnames⟩

/-- A start is blank, a time that exists, or refused for the first fault in it. -/
theorem readable_or_refused (raw : String) :
    (Text.allBlank raw ∧ parse raw = .ok .present) ∨
    (∃ (text : TimeText) (t : Instant), text.StandsIn raw ∧ text.Names t ∧
      parse raw = .ok (.at t)) ∨
    ∃ fault, Instant.parseStrict (Text.trim raw) = .error fault ∧ ¬ Text.allBlank raw ∧
      (∀ text : TimeText, text.StandsIn raw → ¬ text.Exists) ∧
      parse raw = .error (.invalidStart raw fault) := by
  by_cases hblank : Text.allBlank raw
  · exact .inl ⟨hblank, parse_eq_present_iff.2 hblank⟩
  · right
    cases hstrict : Instant.parseStrict (Text.trim raw) with
    | ok t =>
      have hat : parse raw = .ok (.at t) := by rw [parse, if_neg hblank, hstrict]
      obtain ⟨text, hstands, hnames⟩ := parse_eq_at_iff.1 hat
      exact .inl ⟨text, t, hstands, hnames, hat⟩
    | error fault =>
      have hrefused : parse raw = .error (.invalidStart raw fault) := by
        rw [parse, if_neg hblank, hstrict]
      refine .inr ⟨fault, rfl, hblank, fun text hstands hexists => ?_, hrefused⟩
      -- a time that exists names an instant, and would have been read as that
      obtain ⟨t, hnames⟩ := hstands.wellFormed.exists_names hexists
      rw [parse_eq_at_iff.2 ⟨text, hstands, hnames⟩] at hrefused
      cases hrefused

/-- A printed instant is read back, whatever white space surrounds it. -/
theorem parse_display {lead trail : String} (h : t.HasPlainYear) (hlead : Text.allBlank lead)
    (htrail : Text.allBlank trail) : parse (lead ++ t.display ++ trail) = .ok (.at t) := by
  refine parse_eq_at_iff.2 ⟨t.printed, ⟨Instant.wellFormed_printed h, lead.toList, trail.toList,
    List.all_eq_true.1 hlead, List.all_eq_true.1 htrail, ?_⟩, Instant.names_printed h⟩
  rw [String.toList_append, String.toList_append, Instant.toList_display h]

end ClockStart

/-- Starts survive printing: with any white space around it, what is printed of an instant with a
year of four digits is read as that instant. What is read at all is blank or a time, and then it is
the instant that the time names, which is the local time less the offset, with the fraction cut to
nanoseconds; so it is printed and read again as the same instant. No time that exists is refused. -/
theorem start_survives_printing :
    (∀ (t : Instant) (lead trail : String), t.HasPlainYear → Text.allBlank lead →
      Text.allBlank trail → ClockStart.parse (lead ++ t.display ++ trail) = .ok (.at t)) ∧
    (∀ raw, ClockStart.parse raw = .ok .present ↔ Text.allBlank raw) ∧
    (∀ raw t, ClockStart.parse raw = .ok (.at t) ↔
      ∃ text : TimeText, text.StandsIn raw ∧ text.Names t) ∧
    (∀ raw (text : TimeText), text.StandsIn raw → text.Exists →
      ∃ t, ClockStart.parse raw = .ok (.at t)) ∧
    ∀ raw t, ClockStart.parse raw = .ok (.at t) → t.HasPlainYear →
      ClockStart.parse t.display = .ok (.at t) := by
  refine ⟨fun t lead trail => ClockStart.parse_display, fun raw => ClockStart.parse_eq_present_iff,
    fun raw t => ClockStart.parse_eq_at_iff, fun raw text hstands hexists => ?_,
    fun raw t _ hyear => ?_⟩
  · obtain ⟨t, hnames⟩ := hstands.wellFormed.exists_names hexists
    exact ⟨t, ClockStart.parse_eq_at_iff.2 ⟨text, hstands, hnames⟩⟩
  · have hbare : ClockStart.parse ("" ++ t.display ++ "") = .ok (.at t) :=
      ClockStart.parse_display hyear rfl rfl
    simpa using hbare

/-- A leap second that ends the first minute of the year 2000, by its fraction. -/
def Instant.firstMinuteLeap : Instant :=
  ⟨946684859, 1123456789, by decide, by decide, by decide, by decide⟩

/-- Half an hour west of Universal Time the year 1999 is not over then. -/
theorem start_survives_printing_leap_second :
    (∃ text : TimeText, text.StandsIn "\t1999-12-31t23:30:60.1234567899\u221200:30 " ∧
      text.Names Instant.firstMinuteLeap) ∧
      (∃ t, ClockStart.parse "\t1999-12-31t23:30:60.1234567899\u221200:30 " = .ok (.at t)) ∧
      Instant.firstMinuteLeap.display = "2000-01-01T00:00:60.123456789+00:00" ∧
      ClockStart.parse Instant.firstMinuteLeap.display = .ok (.at Instant.firstMinuteLeap) ∧
      ClockStart.parse ("\u3000" ++ Instant.firstMinuteLeap.display ++ "\n") =
        .ok (.at Instant.firstMinuteLeap) := by
  obtain ⟨hprinted, -, hread, haccepts, hagain⟩ := start_survives_printing
  have hyear : Instant.firstMinuteLeap.HasPlainYear := by decide +kernel
  have haccepted : ClockStart.parse "\t1999-12-31t23:30:60.1234567899\u221200:30 " =
      .ok (.at Instant.firstMinuteLeap) := by
    decide +kernel
  obtain ⟨text, hstands, hnames⟩ := (hread _ _).1 haccepted
  exact ⟨⟨text, hstands, hnames⟩, haccepts _ text hstands hnames.exist, by decide +kernel,
    hagain _ _ haccepted hyear, hprinted _ _ _ hyear (by decide) (by decide)⟩

end ClusterSim
