import ClusterSim.Proofs.Text.Blank
import ClusterSim.Proofs.Text.Numeral
import ClusterSim.Proofs.Time.Calendar

/-!
# The notation of times

What a time in the form of RFC 3339 looks like and which instant it names, said without reading it:
its digits and the marks between them, the local time counted by years, months and days, the offset
of the local time from Universal Time, and the fraction of a second cut off to nanoseconds.
-/

namespace ClusterSim

/-- Decimal digits of a given number of places. -/
structure IsNumeral (places : Nat) (digits : List Char) : Prop where
  length_eq : digits.length = places
  isDigit : ∀ c ∈ digits, Text.isDigit c

/-- A number that needs no more digits is padded to a numeral of the places. -/
theorem IsNumeral.zeroPad {places n : Nat} (hplaces : 0 < places) (hn : n < 10 ^ places) :
    IsNumeral places (Text.zeroPad places (Nat.toDigits 10 n)) where
  length_eq := Text.length_zeroPad_toDigits (by omega) hplaces hn
  isDigit := fun _ => Text.isDigit_of_mem_zeroPad

/-! ### Zones -/

/-- The zone at the end of a time. -/
inductive WrittenZone where
  /-- A letter that stands for Universal Time. -/
  | universal (letter : Char)
  /-- A sign and the digits of hours and minutes. -/
  | offset (sign : Char) (hours minutes : List Char)

namespace WrittenZone

/-- The characters of the zone, with a colon between hours and minutes. -/
def chars : WrittenZone → List Char
  | universal letter => [letter]
  | offset sign hours minutes => sign :: (hours ++ ':' :: minutes)

/-- An offset to the west has a hyphen or a minus sign. -/
def WellFormed : WrittenZone → Prop
  | universal letter => letter ∈ ['Z', 'z']
  | offset sign hours minutes =>
    sign ∈ ['+', '-', '\u2212'] ∧ IsNumeral 2 hours ∧ IsNumeral 2 minutes

theorem wellFormed_universal {letter : Char} :
    (universal letter).WellFormed ↔ letter = 'Z' ∨ letter = 'z' := by
  simp [WellFormed]

/-- The hours of the offset. -/
def hourPart : WrittenZone → Nat
  | universal _ => 0
  | offset _ hours _ => Text.decimalValue hours

/-- The minutes of the offset beside its hours. -/
def minutePart : WrittenZone → Nat
  | universal _ => 0
  | offset _ _ minutes => Text.decimalValue minutes

/-- Whether the offset is one of hours of a day and minutes of an hour. -/
def Exists (zone : WrittenZone) : Prop := zone.hourPart < 24 ∧ zone.minutePart < 60

instance (zone : WrittenZone) : Decidable zone.Exists := inferInstanceAs (Decidable (_ ∧ _))

/-- The minutes by which the local time is ahead of Universal Time. -/
def minutesEast : WrittenZone → Int
  | universal _ => 0
  | offset sign hours minutes =>
    if sign = '+' then Text.decimalValue hours * 60 + Text.decimalValue minutes
    else -(Text.decimalValue hours * 60 + Text.decimalValue minutes)

theorem natAbs_minutesEast (zone : WrittenZone) :
    zone.minutesEast.natAbs = zone.hourPart * 60 + zone.minutePart := by
  cases zone with
  | universal letter => rfl
  | offset sign hours minutes =>
    rw [minutesEast, hourPart, minutePart]
    split <;> omega

/-- Offsets are shorter than a day. -/
theorem exists_iff {zone : WrittenZone} :
    zone.Exists ↔ zone.minutePart < 60 ∧ zone.minutesEast.natAbs < 24 * 60 := by
  rw [Exists, natAbs_minutesEast]
  omega

end WrittenZone

/-! ### Times -/

/-- A time as it is written. -/
structure TimeText where
  year : List Char
  month : List Char
  day : List Char
  /-- What stands between the date and the time of day. -/
  separator : Char
  hour : List Char
  minute : List Char
  second : List Char
  /-- The digits behind the point, if there is a point. -/
  fraction : Option (List Char)
  zone : WrittenZone

namespace TimeText

/-- The digits with the marks between them. -/
def chars (text : TimeText) : List Char :=
  text.year ++ '-' :: (text.month ++ '-' :: (text.day ++ text.separator ::
    (text.hour ++ ':' :: (text.minute ++ ':' :: (text.second ++
      (text.fraction.elim [] ('.' :: ·) ++ text.zone.chars))))))

/-- The year has four digits, a fraction any number of them, and the other numbers two. -/
structure WellFormed (text : TimeText) : Prop where
  year : IsNumeral 4 text.year
  month : IsNumeral 2 text.month
  day : IsNumeral 2 text.day
  separator_mem : text.separator ∈ ['T', 't', ' ']
  hour : IsNumeral 2 text.hour
  minute : IsNumeral 2 text.minute
  second : IsNumeral 2 text.second
  fraction : ∀ digits ∈ text.fraction, digits ≠ [] ∧ ∀ c ∈ digits, Text.isDigit c
  zone : text.zone.WellFormed

/-- Whether date, time of day and offset exist. A leap second may end any minute. -/
structure Exists (text : TimeText) : Prop where
  month_mem : 1 ≤ Text.decimalValue text.month ∧ Text.decimalValue text.month ≤ 12
  day_mem : 1 ≤ Text.decimalValue text.day ∧ Text.decimalValue text.day ≤
    Date.daysInMonth (Text.decimalValue text.year) (Text.decimalValue text.month)
  hour_lt : Text.decimalValue text.hour < 24
  minute_lt : Text.decimalValue text.minute < 60
  second_le : Text.decimalValue text.second ≤ 60
  zone : text.zone.Exists

/-- The days from 1970-01-01 to the local date. -/
def localDays (text : TimeText) : Int :=
  Date.daysBefore (Text.decimalValue text.year) (Text.decimalValue text.month)
    (Text.decimalValue text.day) - Date.daysBefore 1970 1 1

/-- The seconds from 1970-01-01T00:00:00 to the local time. A leap second belongs to the second
before it. -/
def localSeconds (text : TimeText) : Int :=
  text.localDays * 86400 + Text.decimalValue text.hour * 3600 +
    Text.decimalValue text.minute * 60 + min (Text.decimalValue text.second) 59

/-- The nanoseconds that digits behind a point write, cut off behind the ninth digit. -/
def cutNanos (digits : List Char) : Nat :=
  Text.decimalValue digits * nanosPerSecond / 10 ^ digits.length

/-- The nanoseconds after the start of the second. -/
def nanos (text : TimeText) : Nat :=
  text.fraction.elim 0 cutNanos +
    if Text.decimalValue text.second = 60 then nanosPerSecond else 0

/-- The instant that a time names is the local time less the offset. -/
structure Names (text : TimeText) (t : Instant) : Prop where
  exist : text.Exists
  seconds_eq : t.seconds = text.localSeconds - text.zone.minutesEast * 60
  nanos_eq : t.nanos = text.nanos

/-- A text is a well-formed time with nothing but white space around it. -/
structure StandsIn (text : TimeText) (raw : String) : Prop where
  wellFormed : text.WellFormed
  exists_blanks : ∃ lead trail, (∀ c ∈ lead, Text.isBlank c) ∧ (∀ c ∈ trail, Text.isBlank c) ∧
    raw.toList = lead ++ text.chars ++ trail

end TimeText

end ClusterSim
