import ClusterSim.Time.Reading

/-!
# Times in the form of RFC 3339

The strict form of a written time: `2019-01-01T00:00:00`, a fraction of a second after a point if
there is one, and `Z` or an offset such as `+09:30`. The faults of a text are found from left to
right; the date and the time of day are checked when they have been read.
-/

namespace ClusterSim

namespace WrittenTime

/-- The number that exactly so many digits write; `seen` is the value of the digits before. -/
def fixedDigits : (count seen : Nat) → Reader Nat
  | 0, seen, cs => .ok (seen, cs)
  | _ + 1, _, [] => .error .tooShort
  | count + 1, seen, c :: rest =>
    match Text.digitValue? 10 c with
    | some d => fixedDigits count (seen * 10 + d) rest
    | none => .error .invalid

/-- The fraction of a second, if the next character is a point. -/
def optionalFraction : Reader Nat
  | '.' :: rest => fractionNanos rest
  | cs => .ok (0, cs)

/-- The bytes of date and time of day in the strict form. -/
def strictLength : Nat := 19

/-- Reads a time in the strict form. -/
def readStrict (cs : List Char) : Except TimeFault WrittenTime := do
  if byteCount cs < strictLength then throw .tooShort
  let (year, rest) ← fixedDigits 4 0 cs
  let ((), rest) ← oneOf ['-'] rest
  let (month, rest) ← fixedDigits 2 0 rest
  let ((), rest) ← oneOf ['-'] rest
  let (day, rest) ← fixedDigits 2 0 rest
  let date : Date := ⟨year, month, day⟩
  if ¬ date.isValid then throw .outOfRange
  let ((), rest) ← oneOf ['T', 't', ' '] rest
  let (hour, rest) ← fixedDigits 2 0 rest
  let ((), rest) ← oneOf [':'] rest
  let (minute, rest) ← fixedDigits 2 0 rest
  let ((), rest) ← oneOf [':'] rest
  let (second, rest) ← fixedDigits 2 0 rest
  let (fraction, rest) ← optionalFraction rest
  if ¬ isTimeOfDay hour minute second then throw .outOfRange
  let (offset, rest) ← offsetMinutes (oneOf [':']) rest
  if ¬ rest.isEmpty then throw .tooLong
  return { date, hour, minute, second, fraction, offset }

end WrittenTime

/-- The instant that a text names in the strict form. -/
def Instant.parseStrict (s : String) : Except TimeFault Instant := do
  (← WrittenTime.readStrict s.toList).toInstant

end ClusterSim
