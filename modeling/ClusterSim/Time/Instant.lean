import ClusterSim.Time.Calendar
import ClusterSim.Time.Delta

/-!
# Instants

An instant is a second of Universal Time and a number of nanoseconds after its start. Instants
reach from the start of the year -262143 to the end of the year 262142. A leap second has no
second of its own: it is the time from `10 ^ 9` up to `2 * 10 ^ 9` nanoseconds after the start of
the last second of a minute.
-/

namespace ClusterSim

/-- Seconds in a day. -/
def secondsPerDay : Int := 86400

/-- The first second of the year -262143. -/
def earliestSecond : Int := -8334601228800

/-- The last second of the year 262142. -/
def latestSecond : Int := 8210266876799

example : earliestSecond = Date.toDays ⟨-262143, 1, 1⟩ * secondsPerDay := by decide
example : latestSecond = Date.toDays ⟨262143, 1, 1⟩ * secondsPerDay - 1 := by decide

/-- A point of simulated time. -/
structure Instant where
  /-- Seconds since 1970-01-01T00:00:00Z. -/
  seconds : Int
  /-- Nanoseconds since the start of the second, `10 ^ 9` or more in a leap second. -/
  nanos : Nat
  earliest_le : earliestSecond ≤ seconds
  le_latest : seconds ≤ latestSecond
  nanos_lt : nanos < 2 * nanosPerSecond
  leap_last : nanosPerSecond ≤ nanos → seconds % 60 = 59
deriving DecidableEq

namespace Instant

/-- The instant of a second and its nanoseconds, if there is one. -/
def ofParts? (seconds : Int) (nanos : Nat) : Option Instant :=
  if h : earliestSecond ≤ seconds ∧ seconds ≤ latestSecond ∧ nanos < 2 * nanosPerSecond ∧
      (nanosPerSecond ≤ nanos → seconds % 60 = 59) then
    some ⟨seconds, nanos, h.1, h.2.1, h.2.2.1, h.2.2.2⟩
  else none

/-- The first instant. -/
def earliest : Instant :=
  ⟨earliestSecond, 0, by decide, by decide, by decide, by decide⟩

/-- The last instant outside a leap second. -/
def latest : Instant :=
  ⟨latestSecond, nanosPerSecond - 1, by decide, by decide, by decide, by decide⟩

/-- 1970-01-01T00:00:00Z. -/
def epoch : Instant := ⟨0, 0, by decide, by decide, by decide, by decide⟩

instance : Inhabited Instant := ⟨epoch⟩

/-- Whether the instant lies in a leap second. -/
def isLeap (t : Instant) : Bool := nanosPerSecond ≤ t.nanos

/-- Instants are ordered by second, then by nanosecond. -/
protected def compare (a b : Instant) : Ordering :=
  (compare a.seconds b.seconds).then (compare a.nanos b.nanos)

instance : Ord Instant := ⟨Instant.compare⟩

/-- The place of an instant on the line of nanoseconds; a leap second lies over the second that
follows it. -/
def position (t : Instant) : Int := t.seconds * nanosPerSecond + t.nanos

/-- The instant outside leap seconds at a place on the line of nanoseconds. -/
def ofPosition? (position : Int) : Option Instant :=
  ofParts? (position / nanosPerSecond) (position % nanosPerSecond).toNat

/-- The instant later by a span of time, if there is one. A span that ends inside the leap second
where it starts stays there. A leap second that is left forwards has passed as time of its own, so
the instant after it counts from the second before. -/
def advance? (t : Instant) (delta : Delta) : Option Instant :=
  let nanos := t.nanos + delta.nanos
  if t.isLeap then
    if 2 * (nanosPerSecond : Int) ≤ nanos then
      ofPosition? (t.position + delta.nanos - nanosPerSecond)
    else if (nanosPerSecond : Int) ≤ nanos then ofParts? t.seconds nanos.toNat
    else ofPosition? (t.position + delta.nanos)
  else ofPosition? (t.position + delta.nanos)

/-! ### Text -/

/-- The digits of a year: four for the years 0 to 9999, else a sign and at least four. -/
def yearText (year : Int) : String :=
  if 0 ≤ year ∧ year ≤ 9999 then Text.paddedDecimal 4 year.natAbs
  else (if year < 0 then "-" else "+") ++ Text.paddedDecimal 4 year.natAbs

/-- The fraction of a second with three, six or nine digits, the fewest that are exact. -/
def fractionText (nanos : Nat) : String :=
  if nanos = 0 then ""
  else if nanos % 1000000 = 0 then "." ++ Text.paddedDecimal 3 (nanos / 1000000)
  else if nanos % 1000 = 0 then "." ++ Text.paddedDecimal 6 (nanos / 1000)
  else "." ++ Text.paddedDecimal 9 nanos

/-- Date and time of day in Universal Time, with the given separator between them and the given
mark of the zone at the end. A leap second is second 60. -/
def format (separator zone : String) (t : Instant) : String :=
  let date := Date.ofDays (t.seconds / secondsPerDay)
  let second := (t.seconds % secondsPerDay).toNat
  yearText date.year ++ "-" ++ Text.paddedDecimal 2 date.month ++ "-" ++
    Text.paddedDecimal 2 date.day ++ separator ++
    Text.paddedDecimal 2 (second / 3600) ++ ":" ++ Text.paddedDecimal 2 (second / 60 % 60) ++ ":" ++
    Text.paddedDecimal 2 (second % 60 + t.nanos / nanosPerSecond) ++
    fractionText (t.nanos % nanosPerSecond) ++ zone

/-- The exported text, such as `2019-01-01T00:00:00Z`. -/
def text (t : Instant) : String := t.format "T" "Z"

/-- The text in summaries, with the offset written out. -/
def display (t : Instant) : String := t.format "T" "+00:00"

/-- The text in error messages. -/
def plain (t : Instant) : String := t.format " " " UTC"

end Instant

end ClusterSim
