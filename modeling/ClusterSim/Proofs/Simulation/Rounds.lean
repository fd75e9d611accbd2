import ClusterSim.Proofs.Simulation.Iteration
import ClusterSim.Proofs.Tick.Step
import ClusterSim.Proofs.TimeSource

/-!
# The rounds of a run

Every round of a run executes one tick of the plain iteration, and between two rounds the run is
determined by the ticks executed so far and the stage reached (`reached`).
-/

namespace ClusterSim

variable {σ ω : Type}

/-- The result of ticks that end as intended; it is lost if there is no instant for one more. -/
def Simulation.conclusion (sim : Simulation σ) (endReason : EndReason)
    (summaries : List TickSummary) : Except RunError SimulationResult :=
  match sim.clockAfter summaries with
  | .ok _ => .ok (.ofTicks endReason summaries)
  | .error error => .error (.timeSource error)

namespace Run

/-! ### The end of a run -/

/-- What a run comes to that ends in this way, if the time source ended with this failure. -/
def verdict (run : Run σ ω) : Ending → Option ClockError → Except RunError SimulationResult
  | .reached reason, none => .ok (run.result reason)
  | .reached _, some error => .error (.timeSource error)
  | .failed error, _ => .error (.tick error)
  | .exhausted, some error => .error (.timeSource error)
  | .exhausted, none => .error .timeSourceClosed

/-- At its end a run closes the time source and is marked as stopped; all else stays. -/
theorem finish_eq (run : Run σ ω) (ending : Ending) :
    (run.finish ending).2 = .finished
      { run with
        timeSource := run.timeSource.close run.stop
        simulation := { run.simulation with status := .stopped } }
      (run.verdict ending (run.timeSource.close run.stop).failure?) := by
  unfold finish
  cases hclosed : (run.timeSource.close run.stop).failure? with
  | none => cases ending <;> simp only [hclosed, verdict]
  | some error => cases ending <;> simp only [hclosed, verdict]

/-! ### Between two rounds -/

/-- The run between two rounds, when these ticks have been executed and this stage is reached. -/
def reached (sim : Simulation σ) (summaries : List TickSummary) (stage : Stage σ ω) : Run σ ω :=
  { simulation := { sim with
      cluster := stage.cluster
      sources := stage.sources
      supply := stage.supply
      status := .running }
    timeSource := .holding sim.step (sim.clockAfter summaries)
    stop := StopRequest.none.requestAll stage.stops
    observer := stage.observer
    ticks := Counter.ofNat64 summaries.length
    bound := Counter.ofNat64 (summaries.countP (·.placement.isBound))
    requeued := Counter.ofNat64 (summaries.countP (·.placement.isRequeued))
    final := summaries.getLast? }

theorem start_eq_reached (sim : Simulation σ) (requested : List String) (observer : ω) :
    start sim (StopRequest.none.requestAll requested) observer =
      reached sim [] (.start sim requested observer) := rfl

theorem stop_reached_of_nil (sim : Simulation σ) (summaries : List TickSummary)
    {stage : Stage σ ω} (hstop : stage.stops = []) :
    (reached sim summaries stage).stop.reason = none := by
  show (StopRequest.none.requestAll stage.stops).reason = none
  rw [hstop]
  rfl

/-- The same run when the instant of the next tick has been taken from the time source. -/
def awaited (sim : Simulation σ) (summaries : List TickSummary) (stage : Stage σ ω)
    (clock : Instant) : Run σ ω :=
  { reached sim summaries stage with timeSource := .holding sim.step (clock.advance sim.step) }

theorem bound_count (run : Run σ ω) (summary : TickSummary) :
    (run.count summary).bound =
      if summary.placement.isBound then Counter.next64 run.bound else run.bound := by
  unfold count
  cases summary.placement with
  | idle => rfl
  | bound pod node => rfl
  | requeued pod requeues => rfl

theorem requeued_count (run : Run σ ω) (summary : TickSummary) :
    (run.count summary).requeued =
      if summary.placement.isRequeued then Counter.next64 run.requeued else run.requeued := by
  unfold count
  cases summary.placement with
  | idle => rfl
  | bound pod node => rfl
  | requeued pod requeues => rfl

theorem limitReached_iff (sim : Simulation σ) (summaries : List TickSummary) (stage : Stage σ ω) :
    (reached sim summaries stage).limitReached ↔ sim.LimitReached summaries.length := by
  unfold limitReached Simulation.LimitReached
  rw [Bool.and_eq_true, decide_eq_true_iff, decide_eq_true_iff]
  exact and_congr UInt64.lt_iff_toNat_lt (Counter.le_ofNat64_iff _ _)

theorem failure?_close_reached (sim : Simulation σ) (summaries : List TickSummary)
    (stage : Stage σ ω) :
    ((reached sim summaries stage).timeSource.close
        (reached sim summaries stage).stop).failure? =
      match sim.clockAfter summaries with
      | .ok _ => none
      | .error error => some error :=
  TimeSource.failure?_close_holding _ (sim.clockAfter summaries)

theorem finish_reached_eq (sim : Simulation σ) (summaries : List TickSummary) (stage : Stage σ ω)
    (endReason : EndReason) :
    ((reached sim summaries stage).finish (.reached endReason)).2 = .finished
      { reached sim summaries stage with
        timeSource :=
          (reached sim summaries stage).timeSource.close (reached sim summaries stage).stop
        simulation := { (reached sim summaries stage).simulation with status := .stopped } }
      (sim.conclusion endReason summaries) := by
  rw [finish_eq, failure?_close_reached]
  unfold Simulation.conclusion
  cases sim.clockAfter summaries with
  | ok clock => rfl
  | error error => rfl

/-- A run that ends as intended fails all the same if there is no instant for one more tick. -/
theorem finish_reached (sim : Simulation σ) (summaries : List TickSummary) (stage : Stage σ ω)
    (endReason : EndReason) :
    ∃ ended, ((reached sim summaries stage).finish (.reached endReason)).2 =
      .finished ended (match sim.clockAfter summaries with
        | .ok _ => .ok (.ofTicks endReason summaries)
        | .error error => .error (.timeSource error)) :=
  ⟨_, finish_reached_eq sim summaries stage endReason⟩

/-! ### One round -/

variable {sim : Simulation σ} {summaries : List TickSummary} {stage : Stage σ ω} [Observer ω]

/-- The run after one more tick, when the observer has been told. -/
def told (run : Run σ ω) (outcome : TickOutcome σ) (summary : TickSummary) : Run σ ω :=
  let observation := Observer.observe run.observer summary outcome.cluster
  { run.count summary with
    simulation := { run.simulation with
      cluster := outcome.cluster
      sources := outcome.intake.sources
      supply := outcome.intake.supply }
    observer := observation.observer
    stop := (run.stop.requestAll outcome.intake.stops).requestAll observation.stops }

theorem told_awaited {summary : TickSummary}
    (htick : summary.tick = Counter.ofNat64 (summaries.length + 1)) (outcome : TickOutcome σ) :
    (awaited sim summaries stage summary.clock).told outcome summary =
      reached sim (summaries ++ [summary]) (stage.told outcome summary) := by
  have hbound := Counter.ofNat64_countP_append (·.placement.isBound) summaries summary
  have hrequeued := Counter.ofNat64_countP_append (·.placement.isRequeued) summaries summary
  unfold told awaited reached Stage.told
  simp only [bound_count, requeued_count, Simulation.clockAfter_append, List.length_append,
    List.length_singleton, ← htick, hbound, hrequeued, List.getLast?_concat,
    StopRequest.requestAll_append]
  rfl

variable [Submitter σ]

/-- A tick that succeeds ends the run at the limit, and else the run goes on. -/
theorem executeTick_of_ok {run : Run σ ω} {clock : Instant} {outcome : TickOutcome σ}
    {summary : TickSummary}
    (houtcome : run.simulation.cluster.tick (Counter.next64 run.ticks) clock
      run.simulation.supply run.simulation.sources = outcome)
    (hresult : outcome.result = .ok summary) :
    (run.executeTick clock).2 =
      if (run.told outcome summary).limitReached then
        ((run.told outcome summary).finish (.reached .maxTicksReached)).2
      else .running (run.told outcome summary) := by
  subst houtcome
  unfold executeTick
  simp only [hresult]
  split
  · rename_i hlimit
    exact (if_pos hlimit).symm
  · rename_i hlimit
    exact (if_neg hlimit).symm

theorem round_of_stop {run : Run σ ω} {reason : String} (h : run.stop.reason = some reason) :
    run.round.2 = (run.finish (.reached (.stopped reason))).2 := by
  unfold round
  simp only [h]
  rfl

theorem round_of_next {run : Run σ ω} {clock : Instant} {timeSource : TimeSource}
    (hstop : run.stop.reason = none)
    (hnext : run.timeSource.next run.stop = (some clock, timeSource)) :
    run.round = { run with timeSource }.executeTick clock := by
  unfold round
  simp only [hstop, hnext]

/-- If no stop has been requested, the next instant is awaited, and the time source advances it. -/
theorem round_reached_eq {clock : Instant} (hstop : stage.stops = [])
    (hclock : sim.clockAfter summaries = .ok clock) :
    (reached sim summaries stage).round = (awaited sim summaries stage clock).executeTick clock := by
  refine round_of_next (stop_reached_of_nil sim summaries hstop) ?_
  show (TimeSource.holding sim.step (sim.clockAfter summaries)).next
    (StopRequest.none.requestAll stage.stops) = _
  rw [hstop, hclock]
  exact TimeSource.next_holding_ok sim.step clock

/-- One round executes one tick. -/
theorem round_reached {clock : Instant} {outcome : TickOutcome σ} {summary : TickSummary}
    (hstop : stage.stops = []) (hclock : sim.clockAfter summaries = .ok clock)
    (houtcome : stage.tick (Counter.ofNat64 (summaries.length + 1)) clock = outcome)
    (hresult : outcome.result = .ok summary) :
    (reached sim summaries stage).round.2 =
      if sim.LimitReached (summaries.length + 1) then
        ((reached sim (summaries ++ [summary]) (stage.told outcome summary)).finish
          (.reached .maxTicksReached)).2
      else .running (reached sim (summaries ++ [summary]) (stage.told outcome summary)) := by
  obtain ⟨hnumber, hinstant⟩ : summary.tick = _ ∧ summary.clock = clock :=
    Cluster.tick_of_result_tick (houtcome ▸ hresult)
  have htick : (awaited sim summaries stage clock).simulation.cluster.tick
      (Counter.next64 (awaited sim summaries stage clock).ticks) clock
      (awaited sim summaries stage clock).simulation.supply
      (awaited sim summaries stage clock).simulation.sources = outcome := by
    show stage.cluster.tick (Counter.next64 (Counter.ofNat64 summaries.length)) clock
      stage.supply stage.sources = outcome
    rw [Counter.next64_ofNat64]
    exact houtcome
  have hlimit := limitReached_iff sim (summaries ++ [summary]) (stage.told outcome summary)
  rw [List.length_append, List.length_singleton] at hlimit
  -- by now the time source has advanced past the instant of the summary
  subst hinstant
  rw [round_reached_eq hstop hclock, executeTick_of_ok htick hresult,
    told_awaited hnumber outcome]
  simp only [hlimit]

/-- A stop that has been requested ends the run in the next round. -/
theorem round_reached_of_stop {reason : String} (hstop : stage.stops.head? = some reason) :
    (reached sim summaries stage).round.2 =
      ((reached sim summaries stage).finish (.reached (.stopped reason))).2 := by
  refine round_of_stop ?_
  show (StopRequest.none.requestAll stage.stops).reason = some reason
  rw [StopRequest.reason_requestAll, hstop]
  rfl

/-! ### Several rounds -/

variable {requested : List String} {observer : ω}

theorem rounds_of_running {run next : Run σ ω} (h : run.round.2 = .running next) (fuel : Nat) :
    (run.rounds (fuel + 1)).2 = (next.rounds fuel).2 := by
  have hround : run.round = (run.round.1, .running next) := by rw [← h]
  rw [rounds, hround]
  rfl

theorem rounds_of_finished {run ended : Run σ ω} {result : Except RunError SimulationResult}
    (h : run.round.2 = .finished ended result) (fuel : Nat) :
    (run.rounds (fuel + 1)).2 = .finished ended result := by
  have hround : run.round = (run.round.1, .finished ended result) := by rw [← h]
  rw [rounds, hround]

/-- As long as the limit is not reached, as many rounds have been made as ticks executed. -/
theorem rounds_of_executed (h : sim.Executed requested observer summaries stage)
    (hlimit : ¬ sim.LimitReached summaries.length) (fuel : Nat) :
    ((reached sim [] (.start sim requested observer)).rounds (summaries.length + fuel)).2 =
      ((reached sim summaries stage).rounds fuel).2 := by
  induction h generalizing fuel with
  | start => rw [List.length_nil, Nat.zero_add]
  | @tick summaries stage clock summary past hstop hbelow hclock hresult ih =>
    rw [List.length_append, List.length_singleton] at hlimit ⊢
    have hround := round_reached hstop hclock rfl hresult
    rw [if_neg hlimit] at hround
    rw [Nat.add_assoc, Nat.add_comm 1, ih hbelow, rounds_of_running hround]

/-- At the limit the last round ends the run, whatever is still requested. -/
theorem rounds_of_limit (h : sim.Executed requested observer summaries stage)
    (hlimit : sim.LimitReached summaries.length) (fuel : Nat) :
    ((reached sim [] (.start sim requested observer)).rounds (summaries.length + fuel)).2 =
      ((reached sim summaries stage).finish (.reached .maxTicksReached)).2 := by
  cases h with
  | start => exact absurd hlimit.2 (Nat.not_le.2 hlimit.1)
  | @tick summaries stage clock summary past hstop hbelow hclock hresult =>
    rw [List.length_append, List.length_singleton] at hlimit ⊢
    have hround := round_reached hstop hclock rfl hresult
    rw [if_pos hlimit] at hround
    obtain ⟨ended, hended⟩ := finish_reached sim (summaries ++ [summary])
      (stage.told (stage.tick (Counter.ofNat64 (summaries.length + 1)) clock) summary)
      .maxTicksReached
    rw [hended] at hround ⊢
    rw [Nat.add_assoc, Nat.add_comm 1, rounds_of_executed past hbelow, rounds_of_finished hround]

/-- Short of the limit a stop that has been requested ends the run in the next round. -/
theorem rounds_of_stop {reason : String} (h : sim.Executed requested observer summaries stage)
    (hlimit : ¬ sim.LimitReached summaries.length) (hstop : stage.stops.head? = some reason)
    (fuel : Nat) :
    ((reached sim [] (.start sim requested observer)).rounds (summaries.length + (fuel + 1))).2 =
      ((reached sim summaries stage).finish (.reached (.stopped reason))).2 := by
  obtain ⟨ended, hended⟩ := finish_reached sim summaries stage (.stopped reason)
  have hround := hended ▸ round_reached_of_stop hstop
  rw [rounds_of_executed h hlimit, rounds_of_finished hround, hended]

end Run

end ClusterSim
