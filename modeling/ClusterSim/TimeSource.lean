import ClusterSim.Stop
import ClusterSim.Tick.Report
import ClusterSim.Time.Clock

/-!
# The time source

A producer hands the instants of successive ticks to the simulation through a slot that holds one
value. It puts the value it holds into the slot when the slot is free, then advances it, and so is
never more than one value ahead. It ends when it sees a stop request, when the receiver is closed,
or when there is no later instant.
-/

namespace ClusterSim

/-- How a producer ended. -/
inductive ProducerEnd where
  /-- It saw a stop request. -/
  | stopped (reason : String)
  /-- It found the receiver closed. -/
  | closed
  /-- The clock could not be advanced. -/
  | failed (error : ClockError)
deriving DecidableEq

/-- What a producer is about to do. -/
inductive Producer where
  /-- To hand over a value. -/
  | sending (clock : Instant)
  /-- To advance the value that it has just handed over. -/
  | advancing (clock : Instant)
  /-- Nothing. -/
  | ended (outcome : ProducerEnd)
deriving DecidableEq

/-- A producer with its slot. -/
structure TimeSource where
  /-- From one value to the next. -/
  step : Delta
  producer : Producer
  /-- The value handed over and not yet taken. -/
  slot : Option Instant
  /-- Whether values are still received. -/
  isOpen : Bool
deriving DecidableEq

namespace TimeSource

/-- A time source before its first value. -/
def start (first : Instant) (step : Delta) : TimeSource :=
  { step, producer := .sending first, slot := none, isOpen := true }

/-- One step of the producer; `none` if it has to wait or has ended. -/
def produce? (stop : StopRequest) (source : TimeSource) : Option TimeSource :=
  match source.producer with
  | .sending clock =>
    match stop.reason with
    | some reason => some { source with producer := .ended (.stopped reason) }
    | none =>
      if ¬ source.isOpen then some { source with producer := .ended .closed }
      else
        match source.slot with
        | none => some { source with producer := .advancing clock, slot := some clock }
        | some _ => none
  | .advancing clock =>
    match clock.advance source.step with
    | .ok later => some { source with producer := .sending later }
    | .error error => some { source with producer := .ended (.failed error) }
  | .ended _ => none

/-- The turn of the producer: its steps until it has to wait or has ended. It can hand over at most
one value, so there are at most two. -/
def turn (stop : StopRequest) (source : TimeSource) : TimeSource :=
  let afterOne := (source.produce? stop).getD source
  (afterOne.produce? stop).getD afterOne

/-- Takes the value from the slot. -/
def take (source : TimeSource) : Option Instant × TimeSource :=
  (source.slot, { source with slot := none })

/-- The next value. The producer has its turn only while the receiver waits. -/
def next (stop : StopRequest) (source : TimeSource) : Option Instant × TimeSource :=
  match source.slot with
  | some _ => source.take
  | none => (source.turn stop).take

/-- Closes the receiver and lets the producer end. -/
def close (stop : StopRequest) (source : TimeSource) : TimeSource :=
  { source with slot := none, isOpen := false }.turn stop

/-- The error of a producer that has ended. -/
def failure? (source : TimeSource) : Option ClockError :=
  match source.producer with
  | .ended (.failed error) => some error
  | _ => none

/-- The message for a failed time source. -/
def failureMessage (error : ClockError) : String :=
  "time source clock error: " ++ error.message

/-- The part of the program that reports on the time source. -/
def target : String := "kubesim_core::ticker"

/-- What a closed time source reports: the stop that ended it only just now, outside the span of the
simulation, and that it has stopped. -/
def closingReport (span : Span) (before after : TimeSource) : List Event :=
  let observed :=
    match before.producer, after.producer with
    | .ended _, _ => []
    | _, .ended (.stopped reason) =>
      [.plain .trace target "Time source observed stop" [("reason", .shown reason)]]
    | _, _ => []
  let stopped :=
    match after.failure? with
    | none => [(Event.plain .debug target "Time source stopped" []).within span]
    | some _ => []
  observed ++ stopped

end TimeSource

end ClusterSim
