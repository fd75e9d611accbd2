import ClusterSim.Text.Blank
import ClusterSim.Time.Rfc3339

/-!
# The simulated clock

The clock starts at a configured instant, or at the present one where none is configured, and
advances by one span of time for each tick.
-/

namespace ClusterSim

/-- Why a clock cannot be set or advanced. -/
inductive ClockError where
  /-- There is no instant later than `instant` by `delta`. -/
  | overflow (instant : Instant) (delta : Delta)
  /-- A configured start is no time. -/
  | invalidStart (raw : String) (fault : TimeFault)
deriving DecidableEq

namespace ClockError

/-- The message of the error. -/
def message : ClockError → String
  | .overflow instant delta =>
    "clock overflow: cannot advance " ++ instant.plain ++ " by " ++ delta.text
  | .invalidStart raw fault =>
    "invalid start clock " ++ Text.quoted raw ++ ": " ++ fault.message

/-- The error as a failed command shows it. -/
def dump : ClockError → Dump
  | .overflow instant delta =>
    .record "Overflow" [("instant", .bare instant.text), ("delta", delta.dump)] false
  | .invalidStart raw fault =>
    .record "InvalidStart"
      [("raw", .text raw), ("source", .applied "ParseError" (.bare fault.name))] false

end ClockError

/-- Where the clock starts. -/
inductive ClockStart where
  /-- At the present instant. -/
  | present
  /-- At a given instant. -/
  | at (instant : Instant)
deriving DecidableEq

namespace ClockStart

/-- Reads a configured start; a blank text stands for the present. -/
def parse (raw : String) : Except ClockError ClockStart :=
  if Text.allBlank raw then .ok .present
  else
    match Instant.parseStrict (Text.trim raw) with
    | .ok t => .ok (.at t)
    | .error fault => .error (.invalidStart raw fault)

/-- The instant where the clock starts, given the present one. -/
def resolve (now : Instant) : ClockStart → Instant
  | .present => now
  | .at instant => instant

end ClockStart

/-- The clock later by a span of time. -/
def Instant.advance (t : Instant) (delta : Delta) : Except ClockError Instant :=
  match t.advance? delta with
  | some later => .ok later
  | none => .error (.overflow t delta)

end ClusterSim
