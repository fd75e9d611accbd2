import ClusterSim.Time.Instant

/-!
# Parts of written times

What the strict and the lenient form of a written time have in common: the faults, runs of digits,
fractions of a second, offsets from Universal Time, and the instant that the parts name.
-/

namespace ClusterSim

/-- Why a text is not read as a time. -/
inductive TimeFault where
  /-- The text ends too early. -/
  | tooShort
  /-- A character that cannot stand where it stands. -/
  | invalid
  /-- A part outside its range, or a date that does not exist. -/
  | outOfRange
  /-- Something is left after the time. -/
  | tooLong
deriving DecidableEq, Repr

namespace TimeFault

/-- The message for a fault. -/
def message : TimeFault → String
  | .tooShort => "premature end of input"
  | .invalid => "input contains invalid characters"
  | .outOfRange => "input is out of range"
  | .tooLong => "trailing input"

/-- The name of a fault in a dump. -/
def name : TimeFault → String
  | .tooShort => "TooShort"
  | .invalid => "Invalid"
  | .outOfRange => "OutOfRange"
  | .tooLong => "TooLong"

end TimeFault

/-- The parts of a written time: local date and time of day, and the offset of the local time in
minutes east of Universal Time. -/
structure WrittenTime where
  date : Date
  hour : Nat
  minute : Nat
  second : Nat
  /-- Nanoseconds after the start of the second. -/
  fraction : Nat
  offset : Int
deriving DecidableEq, Repr

namespace WrittenTime

/-- A reader takes a value off the front of the characters. -/
abbrev Reader (α : Type) := List Char → Except TimeFault (α × List Char)

/-- Exactly one of the given characters. -/
def oneOf (allowed : List Char) : Reader Unit
  | [] => .error .tooShort
  | c :: rest => if allowed.contains c then .ok ((), rest) else .error .invalid

/-- The longest run of at most `most` digits, at least one. -/
def digits (most : Nat) : Reader (List Char)
  | [] => .error .tooShort
  | c :: rest =>
    let run := ((c :: rest).take most).takeWhile Text.isDigit
    if run.isEmpty then .error .invalid else .ok (run, (c :: rest).drop run.length)

/-- The number that a run of digits writes. -/
def valueOf (run : List Char) : Nat := (Text.foldDigits 10 0 run).getD 0

/-- The nanoseconds that the digits after the point write; digits after the ninth are dropped. -/
def fractionNanos : Reader Nat := fun cs => do
  let (run, rest) ← digits 9 cs
  return (valueOf run * Nat.pow 10 (9 - run.length), rest.dropWhile Text.isDigit)

/-- The number of bytes that some characters take in UTF-8. -/
def byteCount (cs : List Char) : Nat := cs.foldl (fun n c => n + c.utf8Size) 0

/-- Exactly two digits. A single character that takes several bytes is a wrong one, not a missing
one. -/
def twoDigits : Reader (Nat × Nat)
  | first :: second :: rest =>
    if Text.isDigit first && Text.isDigit second then
      .ok ((valueOf [first], valueOf [second]), rest)
    else .error .invalid
  | cs => if 2 ≤ byteCount cs then .error .invalid else .error .tooShort

/-- The offset in minutes: `Z`, or a sign, two digits of hours, what `separator` skips, and two
digits of minutes. -/
def offsetMinutes (separator : Reader Unit) : Reader Int
  | [] => .error .tooShort
  | sign :: rest =>
    if sign = 'Z' || sign = 'z' then .ok (0, rest)
    else if sign = '+' || sign = '-' || sign = '\u2212' then do
      let ((hourTens, hourOnes), rest) ← twoDigits rest
      let ((), rest) ← separator rest
      let ((minuteTens, minuteOnes), rest) ← twoDigits rest
      if 6 ≤ minuteTens then .error .outOfRange
      else
        let size : Int := (hourTens * 10 + hourOnes) * 60 + (minuteTens * 10 + minuteOnes)
        .ok (if sign = '+' then size else -size, rest)
    else .error .invalid

/-- Seconds of the local time since the local 1970-01-01T00:00:00, and nanoseconds. Second 60 is
the leap second after second 59. -/
def localParts (time : WrittenTime) : Int × Nat :=
  let second := if time.second = 60 then 59 else time.second
  let extra := if time.second = 60 then nanosPerSecond else 0
  (time.date.toDays * secondsPerDay + (time.hour * 3600 + time.minute * 60 + second : Nat),
    time.fraction + extra)

/-- Whether a time of day exists. -/
def isTimeOfDay (hour minute second : Nat) : Bool :=
  hour < 24 && minute < 60 && second ≤ 60

/-- Whether date and time of day exist and the year is one of those that instants reach. -/
def isValid (time : WrittenTime) : Bool :=
  time.date.isValid && -262143 ≤ time.date.year && time.date.year ≤ 262142 &&
    isTimeOfDay time.hour time.minute time.second

/-- The instant that a written time names: the local time less its offset. -/
def toInstant (time : WrittenTime) : Except TimeFault Instant :=
  if ¬ time.isValid then .error .outOfRange
  else if 24 * 60 ≤ time.offset.natAbs then .error .outOfRange
  else
    let (seconds, nanos) := time.localParts
    match Instant.ofParts? (seconds - time.offset * 60) nanos with
    | some t => .ok t
    | none => .error .outOfRange

end WrittenTime

end ClusterSim
