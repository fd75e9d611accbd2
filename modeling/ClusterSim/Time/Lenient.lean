import ClusterSim.Text.Blank
import ClusterSim.Time.Rfc3339

/-!
# The lenient form of a time

The form in which exported times are read back: that of RFC 3339, with white space allowed between
the parts, numbers without leading zeros, years of any sign and length, `UTC` for `Z`, and any
colons and white space, or none, between the hours and the minutes of an offset.
-/

namespace ClusterSim

namespace WrittenTime

/-- A number of at most `most` digits after white space. -/
def spacedNumber (most : Nat) : Reader Nat := fun cs => do
  let (run, rest) ← digits most (Text.dropBlank cs)
  return (valueOf run, rest)

/-- A year after white space: at most four digits, or a sign and any number of digits. -/
def spacedYear : Reader Int := fun cs =>
  match Text.dropBlank cs with
  | '-' :: rest => do
    let (run, rest) ← digits rest.length rest
    return (-valueOf run, rest)
  | '+' :: rest => do
    let (run, rest) ← digits rest.length rest
    return (valueOf run, rest)
  | cs => do
    let (run, rest) ← digits 4 cs
    return (valueOf run, rest)

/-- One of the given characters after white space. -/
def spacedOneOf (allowed : List Char) : Reader Unit := fun cs =>
  oneOf allowed (Text.dropBlank cs)

/-- Colons and white space, any number of them. -/
def colonsAndBlanks : Reader Unit := fun cs =>
  .ok ((), cs.dropWhile fun c => c = ':' || Text.isBlank c)

/-- The zone: `UTC` in letters of either case, or an offset. -/
def zone : Reader Int
  | a :: b :: c :: rest =>
    if [a, b, c].map Char.toUpper = ['U', 'T', 'C'] then .ok (0, rest)
    else offsetMinutes colonsAndBlanks (a :: b :: c :: rest)
  | cs => offsetMinutes colonsAndBlanks cs

/-- Reads a time in the lenient form. -/
def readLenient (cs : List Char) : Except TimeFault WrittenTime := do
  let (year, rest) ← spacedYear cs
  let ((), rest) ← spacedOneOf ['-'] rest
  let (month, rest) ← spacedNumber 2 rest
  let ((), rest) ← spacedOneOf ['-'] rest
  let (day, rest) ← spacedNumber 2 rest
  let ((), rest) ← oneOf ['T', 't', ' '] rest
  let (hour, rest) ← spacedNumber 2 rest
  let ((), rest) ← spacedOneOf [':'] rest
  let (minute, rest) ← spacedNumber 2 rest
  let ((), rest) ← spacedOneOf [':'] rest
  let (second, rest) ← spacedNumber 2 rest
  let (fraction, rest) ← optionalFraction rest
  let (offset, rest) ← zone (Text.dropBlank rest)
  if ¬ (Text.dropBlank rest).isEmpty then throw .tooLong
  return { date := ⟨year, month, day⟩, hour, minute, second, fraction, offset }

end WrittenTime

/-- The instant that a text names in the lenient form. -/
def Instant.parseLenient (s : String) : Except TimeFault Instant := do
  (← WrittenTime.readLenient s.toList).toInstant

end ClusterSim
