import ClusterSim.TimeSource

/-!
# The time source between two values

The producer advances a value as soon as it has handed it over. Between two values it therefore
holds the next one, or has failed already because there is none. Main statements: `next_holding_ok`
and `failure?_close_holding`.
-/

namespace ClusterSim.TimeSource

variable {step : Delta}

/-- The instants that a time source has to deliver: the first one, and each later one a step after
the one before it, as long as there is one. -/
def due (first : Instant) (step : Delta) : Nat → Except ClockError Instant
  | 0 => .ok first
  | k + 1 =>
    match due first step k with
    | .ok clock => clock.advance step
    | .error error => .error error

theorem due_succ_of_ok {first clock : Instant} {k : Nat} (h : due first step k = .ok clock) :
    due first step (k + 1) = clock.advance step := by
  rw [due, h]

/-- The time source when the slot is free and the producer holds what comes next: a value, or the
error of a clock that could not be advanced. -/
def holding (step : Delta) (next : Except ClockError Instant) : TimeSource :=
  { step
    producer := match next with
      | .ok clock => .sending clock
      | .error error => .ended (.failed error)
    slot := none
    isOpen := true }

/-- A value that was handed over is advanced, whoever is still waiting for it. -/
theorem produce?_advancing (stop : StopRequest) (clock : Instant) (slot : Option Instant)
    (isOpen : Bool) :
    produce? stop { step, producer := .advancing clock, slot, isOpen } =
      some { holding step (clock.advance step) with slot, isOpen } := by
  unfold produce? holding
  cases hadvance : clock.advance step with
  | ok later => simp only [hadvance]
  | error error => simp only [hadvance]

/-- The value that is held comes next, and by then it has been advanced. -/
theorem next_holding_ok (step : Delta) (clock : Instant) :
    (holding step (.ok clock)).next .none = (some clock, holding step (clock.advance step)) := by
  have hsend : produce? .none (holding step (.ok clock)) =
      some { step, producer := .advancing clock, slot := some clock, isOpen := true } := rfl
  show ((holding step (.ok clock)).turn .none).take = _
  rw [turn, hsend, Option.getD_some, produce?_advancing]
  rfl

/-- Where there is no next value, none comes. -/
theorem next_holding_error (stop : StopRequest) (step : Delta) (error : ClockError) :
    (holding step (.error error)).next stop = (none, holding step (.error error)) := rfl

/-- A source that is closed between two values fails exactly if there is no next value, whether a
stop has been requested or not. -/
theorem failure?_close_holding (stop : StopRequest) (next : Except ClockError Instant) :
    ((holding step next).close stop).failure? =
      match next with
      | .ok _ => none
      | .error error => some error := by
  cases next with
  | ok clock =>
    obtain ⟨_ | reason⟩ := stop
    · rfl
    · rfl
  | error error => rfl

end ClusterSim.TimeSource
