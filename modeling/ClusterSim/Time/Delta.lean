import ClusterSim.Text.Dump

/-!
# Spans of time

A signed number of nanoseconds, up to `2 ^ 63 - 1` milliseconds either way.
-/

namespace ClusterSim

/-- Nanoseconds in a second. -/
def nanosPerSecond : Nat := 1000000000

/-- A signed span of time. -/
structure Delta where
  nanos : Int
  lower : -(9223372036854775807 * 1000000) ≤ nanos
  upper : nanos ≤ 9223372036854775807 * 1000000
deriving DecidableEq

namespace Delta

/-- The span of a number of nanoseconds, if it is in range. -/
def ofNanos? (nanos : Int) : Option Delta :=
  if h : -(9223372036854775807 * 1000000) ≤ nanos ∧ nanos ≤ 9223372036854775807 * 1000000 then
    some ⟨nanos, h.1, h.2⟩
  else none

/-- The span of a number of whole seconds, if it is in range. -/
def ofSeconds? (seconds : Int) : Option Delta := ofNanos? (seconds * nanosPerSecond)

/-- Whole seconds, rounded toward zero. -/
def wholeSeconds (delta : Delta) : Int := delta.nanos.tdiv nanosPerSecond

/-- Decimal digits of a fraction of a second, without zeros at the end. -/
def fractionDigits (nanos : Nat) : List Char :=
  ((Text.zeroPad 9 (Nat.toDigits 10 nanos)).reverse.dropWhile (· = '0')).reverse

/-- The ISO 8601 text: seconds with their fraction, and `P0D` for no time at all. -/
def text (delta : Delta) : String :=
  if delta.nanos = 0 then "P0D"
  else
    let size := delta.nanos.natAbs
    let fraction := size % nanosPerSecond
    (if delta.nanos < 0 then "-" else "") ++ "PT" ++ Text.decimal (size / nanosPerSecond) ++
      (if fraction = 0 then "" else "." ++ .ofList (fractionDigits fraction)) ++ "S"

/-- Whole seconds rounded down, and the nanoseconds above them. -/
def dump (delta : Delta) : Dump :=
  .record "TimeDelta"
    [("secs", .bare (Text.signedDecimal (delta.nanos / nanosPerSecond))),
     ("nanos", .bare (Text.signedDecimal (delta.nanos % nanosPerSecond)))] false

end Delta

end ClusterSim
