import ClusterSim.Proofs.Simulation.Conclusion
import ClusterSim.Proofs.TimeSource.Delivery

/-!
# A run is one order of the steps of its delivery

The rounds of a run make the steps of the producer and of the loop in one order: the producer has
its turn while the loop waits for a value, and once more when the receiver is closed. Whatever holds
of every delivery therefore holds of a run after any number of rounds (`Simulation.steps_run`). The
values that the loop receives are the instants of the ticks that it executes (`Executed.steps`).
-/

namespace ClusterSim

namespace Delivery

variable {source next : TimeSource} {stop : StopRequest}

/-- Steps from one to the other in which the loop receives nothing. -/
def Quietly (d after : Delivery) : Prop :=
  ∃ trace, d.Steps trace after ∧ received trace = []

theorem Quietly.refl (d : Delivery) : d.Quietly d := ⟨[], .refl d, rfl⟩

theorem Quietly.trans {d middle after : Delivery} (h : d.Quietly middle)
    (hmore : middle.Quietly after) : d.Quietly after := by
  obtain ⟨trace, hsteps, hnone⟩ := h
  obtain ⟨more, hmoreSteps, hmoreNone⟩ := hmore
  refine ⟨trace ++ more, hsteps.trans hmoreSteps, ?_⟩
  rw [received_append, hnone, hmoreNone]
  rfl

theorem Step.quietly {d after : Delivery} (h : d.Step .silent after) : d.Quietly after :=
  ⟨[.silent], h.steps, rfl⟩

theorem quietly_requestAll (d : Delivery) (reasons : List String) :
    d.Quietly { d with stop := d.stop.requestAll reasons } := by
  induction reasons generalizing d with
  | nil => exact .refl d
  | cons reason rest ih =>
    have hfirst : d.Quietly { d with stop := d.stop.request reason } :=
      ⟨[.requested reason], (Step.request d reason).steps, rfl⟩
    exact hfirst.trans (ih { d with stop := d.stop.request reason })

/-- A producer that looks at the stop request and acts on it at once. -/
theorem quietly_produce? (hnext : source.produce? stop = some next) (loop : TickLoop) :
    Quietly ⟨source, none, stop, loop⟩ ⟨next, none, stop, loop⟩ := by
  cases hproducer : source.producer with
  | sending clock =>
    have hlook : Quietly ⟨source, none, stop, loop⟩ ⟨source, some stop, stop, loop⟩ :=
      (Step.look hproducer).quietly
    refine hlook.trans ?_
    rcases TimeSource.produce?_sending hproducer hnext with ⟨-, -, rfl⟩ | ⟨rfl | ⟨reason, rfl⟩⟩
    · exact ⟨[.sent clock], (Step.send rfl hnext rfl).steps, rfl⟩
    · exact (Step.finish rfl hnext rfl).quietly
    · exact (Step.finish rfl hnext rfl).quietly
  | advancing clock => exact (Step.advance hproducer hnext).quietly
  | ended outcome =>
    simp only [TimeSource.produce?, hproducer] at hnext
    cases hnext

theorem quietly_turn (source : TimeSource) (stop : StopRequest) (loop : TickLoop) :
    Quietly ⟨source, none, stop, loop⟩ ⟨source.turn stop, none, stop, loop⟩ := by
  have hone : ∀ source : TimeSource, Quietly ⟨source, none, stop, loop⟩
      ⟨(source.produce? stop).getD source, none, stop, loop⟩ := by
    intro source
    cases hnext : source.produce? stop with
    | none => exact .refl _
    | some next => exact quietly_produce? hnext loop
  exact (hone source).trans (hone _)

/-- Where no value comes and no stop has been requested, the producer has ended. -/
theorem ended_of_slot_turn (hstop : stop.reason = none) (hslot : (source.turn stop).slot = none) :
    ∃ outcome, (source.turn stop).producer = .ended outcome := by
  obtain ⟨step, producer, slot, isOpen⟩ := source
  unfold TimeSource.turn at hslot ⊢
  cases producer with
  | sending clock =>
    cases isOpen with
    | false => exact ⟨.closed, by simp [TimeSource.produce?, hstop]⟩
    | true =>
      cases slot with
      | none =>
        cases hadvance : clock.advance step with
        | ok later => simp [TimeSource.produce?, hstop, hadvance] at hslot
        | error error => simp [TimeSource.produce?, hstop, hadvance] at hslot
      | some value => simp [TimeSource.produce?, hstop] at hslot
  | advancing clock =>
    cases hadvance : clock.advance step with
    | error error => exact ⟨.failed error, by simp [TimeSource.produce?, hadvance]⟩
    | ok later =>
      cases isOpen with
      | false => exact ⟨.closed, by simp [TimeSource.produce?, hstop, hadvance]⟩
      | true =>
        cases slot with
        | none => simp [TimeSource.produce?, hstop, hadvance] at hslot
        | some value => simp [TimeSource.produce?, hstop, hadvance] at hslot
  | ended outcome => exact ⟨outcome, rfl⟩

end Delivery

/-! ### Rounds -/

variable {σ ω : Type}

/-- Where the delivery stands when a run has come to this. -/
def Progress.delivery : Progress σ ω → Delivery
  | .running run => ⟨run.timeSource, none, run.stop, .looking⟩
  | .finished run _ => ⟨run.timeSource, none, run.stop, .left⟩

namespace Run

open Delivery (Quietly Step received)

/-- When the loop is left, it closes the receiver, and the producer has its turn. -/
theorem quietly_finish (run : Run σ ω) (ending : Ending) :
    Quietly ⟨run.timeSource, none, run.stop, .left⟩ (run.finish ending).2.delivery := by
  rw [finish_eq]
  refine (Step.close rfl).quietly.trans ?_
  exact Delivery.quietly_turn { run.timeSource with slot := none, isOpen := false } run.stop .left

theorem quietly_leave (run : Run σ ω) (ending : Ending) :
    Quietly ⟨run.timeSource, none, run.stop, .ticking⟩ (run.finish ending).2.delivery :=
  (Step.leave rfl).quietly.trans (run.quietly_finish ending)

variable [Submitter σ] [Observer ω]

/-- During a tick stops are requested, and after it the loop goes on or is left. -/
theorem quietly_executeTick (run : Run σ ω) (clock : Instant) :
    Quietly ⟨run.timeSource, none, run.stop, .ticking⟩ (run.executeTick clock).2.delivery := by
  have hrequested := Delivery.quietly_requestAll ⟨run.timeSource, none, run.stop, .ticking⟩
  let outcome := run.simulation.cluster.tick (Counter.next64 run.ticks) clock
    run.simulation.supply run.simulation.sources
  cases hresult : outcome.result with
  | error error =>
    rw [executeTick_of_error rfl hresult]
    exact (hrequested outcome.intake.stops).trans
      (quietly_leave (run.ticked outcome) (.failed error))
  | ok summary =>
    have hobserved := hrequested
      (outcome.intake.stops ++ (Observer.observe run.observer summary outcome.cluster).stops)
    rw [StopRequest.requestAll_append] at hobserved
    rw [executeTick_of_ok rfl hresult]
    split
    · exact hobserved.trans (quietly_leave (run.told outcome summary) (.reached .maxTicksReached))
    · exact hobserved.trans (Step.endTick rfl).quietly

/-- The last summary of a run that goes on after a tick is that of the tick. -/
theorem clock_of_executeTick {run next : Run σ ω} {clock : Instant}
    (h : (run.executeTick clock).2 = .running next) : next.final.map (·.clock) = some clock := by
  let outcome := run.simulation.cluster.tick (Counter.next64 run.ticks) clock
    run.simulation.supply run.simulation.sources
  cases hresult : outcome.result with
  | error error =>
    rw [executeTick_of_error rfl hresult, finish_eq] at h
    cases h
  | ok summary =>
    rw [executeTick_of_ok rfl hresult] at h
    split at h
    · rw [finish_eq] at h
      cases h
    · cases h
      exact congrArg some (Cluster.tick_of_result_tick hresult).2

/-- While the loop waits, the producer has its turn if the slot is empty. -/
theorem exists_take_eq_next (source : TimeSource) (stop : StopRequest) :
    ∃ before, source.next stop = before.take ∧
      Quietly ⟨source, none, stop, .receiving⟩ ⟨before, none, stop, .receiving⟩ ∧
      (stop.reason = none → before.slot = none → ∃ outcome, before.producer = .ended outcome) := by
  unfold TimeSource.next
  cases hslot : source.slot with
  | some value =>
    refine ⟨source, rfl, .refl _, fun _ hnone => ?_⟩
    rw [hslot] at hnone
    cases hnone
  | none =>
    exact ⟨source.turn stop, rfl, Delivery.quietly_turn source stop .receiving,
      Delivery.ended_of_slot_turn⟩

/-- In a round the loop receives the instant of the tick that it executes, and nothing else. -/
theorem steps_round (run : Run σ ω) :
    ∃ trace, (Progress.running run).delivery.Steps trace run.round.2.delivery ∧
      ((received trace = [] ∧ ∃ ended result, run.round.2 = .finished ended result) ∨
        ∃ clock timeSource, received trace = [clock] ∧
          run.round = { run with timeSource }.executeTick clock) := by
  cases hstop : run.stop.reason with
  | some reason =>
    obtain ⟨trace, hsteps, hnone⟩ := run.quietly_finish (.reached (.stopped reason))
    rw [round_of_stop hstop]
    refine ⟨_, (Step.observe rfl hstop).steps.trans hsteps, .inl ⟨?_, _, _, finish_eq _ _⟩⟩
    rw [Delivery.received_append, hnone]
    rfl
  | none =>
    have hawait : Quietly ⟨run.timeSource, none, run.stop, .looking⟩
        ⟨run.timeSource, none, run.stop, .receiving⟩ := (Step.await rfl hstop).quietly
    obtain ⟨before, hnext, hturn, hended⟩ := exists_take_eq_next run.timeSource run.stop
    obtain ⟨waited, hwaited, hnone⟩ := hawait.trans hturn
    cases hslot : before.slot with
    | none =>
      obtain ⟨outcome, houtcome⟩ := hended hstop hslot
      have hsame : before.take = (none, before) := by
        obtain ⟨_, _, slot, _⟩ := before
        subst hslot
        rfl
      obtain ⟨closing, hclosing, hnoneClosing⟩ :=
        quietly_finish { run with timeSource := before } .exhausted
      have hround : run.round.2 = (Run.finish { run with timeSource := before } .exhausted).2 := by
        unfold round
        simp only [hstop, hnext, hsame]
      rw [hround]
      refine ⟨_, (hwaited.trans (Step.exhaust rfl hslot houtcome).steps).trans hclosing,
        .inl ⟨?_, _, _, finish_eq _ _⟩⟩
      rw [Delivery.received_append, Delivery.received_append, hnone, hnoneClosing]
      rfl
    | some clock =>
      have htake : before.take = (some clock, { before with slot := none }) :=
        congrArg (·, _) hslot
      obtain ⟨ticking, hticking, hnoneTicking⟩ :=
        quietly_executeTick { run with timeSource := { before with slot := none } } clock
      rw [round_of_next hstop (hnext.trans htake)]
      refine ⟨_, (hwaited.trans (Step.receive rfl htake).steps).trans hticking,
        .inr ⟨clock, _, ?_, rfl⟩⟩
      rw [Delivery.received_append, Delivery.received_append, hnone, hnoneTicking]
      rfl

/-! ### Several rounds -/

/-- After any number of rounds a run is where some steps of its delivery lead, and as long as it
goes on, the loop has received as many values as there were rounds. -/
theorem steps_rounds (run : Run σ ω) (fuel : Nat) :
    ∃ trace, (Progress.running run).delivery.Steps trace (run.rounds fuel).2.delivery ∧
      (received trace).length ≤ fuel ∧
      ∀ next, (run.rounds fuel).2 = .running next → (received trace).length = fuel := by
  induction fuel generalizing run with
  | zero => exact ⟨[], .refl _, Nat.le_refl 0, fun _ _ => rfl⟩
  | succ fuel ih =>
    obtain ⟨trace, hsteps, hcases⟩ := run.steps_round
    cases hround : run.round.2 with
    | finished ended result =>
      rw [rounds_of_finished hround]
      rw [hround] at hsteps
      refine ⟨trace, hsteps, ?_, fun next hnext => ?_⟩
      · rcases hcases with ⟨hnone, -⟩ | ⟨clock, timeSource, hone, -⟩
        · rw [hnone]
          exact Nat.zero_le _
        · rw [hone]
          exact Nat.le_add_left 1 fuel
      · cases hnext
    | running next =>
      rw [rounds_of_running hround]
      rw [hround] at hsteps hcases
      obtain ⟨more, hmore, hle, hlength⟩ := ih next
      have hone : (received trace).length = 1 := by
        rcases hcases with ⟨-, ended, result, hfinished⟩ | ⟨clock, timeSource, hone, -⟩
        · cases hfinished
        · rw [hone]
          rfl
      refine ⟨trace ++ more, hsteps.trans hmore, ?_, fun later hlater => ?_⟩
      · rw [Delivery.received_append, List.length_append]
        omega
      · rw [Delivery.received_append, List.length_append, hlength later hlater]
        omega

end Run

namespace Simulation

open Delivery (received)

variable [Submitter σ] [Observer ω] {sim : Simulation σ}

/-- A simulation that has not run yet, run for any number of rounds, is where some steps of the
delivery from its start lead. -/
theorem steps_run (h : sim.status ≠ .stopped) (requested : List String) (observer : ω)
    (rounds : Nat) :
    ∃ trace, (Delivery.start sim.start sim.step).Steps trace
        (sim.run rounds (StopRequest.none.requestAll requested) observer).2.delivery ∧
      (received trace).length ≤ rounds := by
  obtain ⟨before, hbefore, hnone⟩ :=
    Delivery.quietly_requestAll (.start sim.start sim.step) requested
  obtain ⟨trace, hsteps, hle, -⟩ :=
    (Run.start sim (StopRequest.none.requestAll requested) observer).steps_rounds rounds
  rw [run, if_neg h]
  refine ⟨before ++ trace, hbefore.trans hsteps, ?_⟩
  rw [Delivery.received_append, hnone]
  exact hle

/-- Short of the limit, the values that the loop has received are the instants of the ticks that
have been executed. -/
theorem Executed.steps {requested : List String} {observer : ω} {summaries : List TickSummary}
    {stage : Stage σ ω} (h : sim.Executed requested observer summaries stage)
    (hlimit : ¬ sim.LimitReached summaries.length) :
    ∃ trace, (Delivery.start sim.start sim.step).Steps trace
        (Progress.running (Run.reached sim summaries stage)).delivery ∧
      received trace = summaries.map (·.clock) := by
  induction h with
  | start => exact Delivery.quietly_requestAll (.start sim.start sim.step) requested
  | @tick summaries stage clock summary past hstop hbelow hclock hresult ih =>
    obtain ⟨before, hbefore, hreceived⟩ := ih hbelow
    obtain ⟨trace, hsteps, hcases⟩ := (Run.reached sim summaries stage).steps_round
    have hround := Run.round_reached hstop hclock rfl hresult
    rw [List.length_append, List.length_singleton] at hlimit
    rw [if_neg hlimit] at hround
    rw [hround] at hsteps hcases
    refine ⟨before ++ trace, hbefore.trans hsteps, ?_⟩
    rw [Delivery.received_append, hreceived, List.map_append, List.map_singleton]
    rcases hcases with ⟨-, ended, result, hfinished⟩ | ⟨taken, timeSource, hone, htick⟩
    · cases hfinished
    · have hfinal := Run.clock_of_executeTick ((congrArg Prod.snd htick).symm.trans hround)
      have hlast : (summaries ++ [summary]).getLast?.map (·.clock) = some taken := hfinal
      rw [List.getLast?_concat] at hlast
      rw [hone, ← Option.some.inj hlast]

end Simulation

end ClusterSim
