import ClusterSim.Proofs.Simulation.Rounds
import ClusterSim.Proofs.TimeSource.Delivery
import ClusterSim.Workload

/-!
# How a run that ends as intended is reported

The ticks of a run end as intended when the limit is reached or a stop has been requested. Main
statement: `ended_run_reported`. Such a run reports its ticks exactly if the time source could have
gone on; past the last instant it fails for the want of a tick that nobody asked for. The run is one
order of the steps of its parts, but in every order the time source fails past the last instant.
-/

namespace ClusterSim

variable {σ ω : Type}

/-- The result of a run that has finished. -/
def Progress.result? : Progress σ ω → Option (Except RunError SimulationResult)
  | .running _ => none
  | .finished _ result => some result

namespace Simulation

/-- The ticks have come to an end as intended. -/
inductive Ended (sim : Simulation σ) (summaries : List TickSummary) (stage : Stage σ ω) :
    EndReason → Prop
  /-- At the limit, whether a stop has been requested or not. -/
  | limit (hlimit : sim.LimitReached summaries.length) : Ended sim summaries stage .maxTicksReached
  /-- By the first stop that was requested. -/
  | stop {reason : String} (hlimit : ¬ sim.LimitReached summaries.length)
      (hstop : stage.stops.head? = some reason) : Ended sim summaries stage (.stopped reason)

variable [Submitter σ] [Observer ω] {sim : Simulation σ} {requested : List String} {observer : ω}
  {summaries : List TickSummary} {stage : Stage σ ω}

/-- The limit is never passed. -/
theorem Executed.length_le (h : sim.Executed requested observer summaries stage)
    (hlimit : 0 < sim.maxTicks.toNat) : summaries.length ≤ sim.maxTicks.toNat := by
  cases h with
  | start => exact Nat.zero_le _
  | @tick summaries _ _ _ _ _ hbelow _ _ =>
    have hlt : ¬ sim.maxTicks.toNat ≤ summaries.length := fun hle => hbelow ⟨hlimit, hle⟩
    rw [List.length_append, List.length_singleton]
    omega

/-- After more rounds than ticks a run that ends as intended is finished. -/
theorem Ended.finished {endReason : EndReason} (hended : sim.Ended summaries stage endReason)
    (h : sim.Executed requested observer summaries stage) {rounds : Nat}
    (hrounds : summaries.length < rounds) :
    ((Run.reached sim [] (.start sim requested observer)).rounds rounds).2 =
      ((Run.reached sim summaries stage).finish (.reached endReason)).2 := by
  obtain ⟨fuel, rfl⟩ := Nat.exists_eq_add_of_lt hrounds
  rw [Nat.add_assoc]
  cases hended with
  | limit hlimit => exact Run.rounds_of_limit h hlimit (fuel + 1)
  | stop hlimit hstop => exact Run.rounds_of_stop h hlimit hstop fuel

theorem result?_run (hidle : sim.status ≠ .stopped)
    (h : sim.Executed requested observer summaries stage) {endReason : EndReason}
    (hended : sim.Ended summaries stage endReason) {rounds : Nat}
    (hrounds : summaries.length < rounds) :
    (sim.run rounds (StopRequest.none.requestAll requested) observer).2.result? =
      some (match sim.clockAfter summaries with
        | .ok _ => .ok (.ofTicks endReason summaries)
        | .error error => .error (.timeSource error)) := by
  obtain ⟨ended, hfinish⟩ := Run.finish_reached sim summaries stage endReason
  rw [run, if_neg hidle]
  show ((Run.start sim (StopRequest.none.requestAll requested) observer).rounds rounds).2.result? =
    some _
  rw [Run.start_eq_reached, hended.finished h hrounds, hfinish]
  rfl

/-- At the limit nothing has been lost in counting. -/
theorem Executed.totals (h : sim.Executed requested observer summaries stage)
    (hlimit : sim.LimitReached summaries.length) (endReason : EndReason) :
    (SimulationResult.ofTicks endReason summaries).totalTicks = sim.maxTicks ∧
    (SimulationResult.ofTicks endReason summaries).bound.toNat =
      summaries.countP (·.placement.isBound) ∧
    (SimulationResult.ofTicks endReason summaries).requeued.toNat =
      summaries.countP (·.placement.isRequeued) := by
  have hlt : sim.maxTicks.toNat < UInt64.size := sim.maxTicks.toNat_lt
  have hlength : summaries.length = sim.maxTicks.toNat :=
    Nat.le_antisymm (h.length_le hlimit.1) hlimit.2
  have hexact : ∀ n, n ≤ summaries.length → (Counter.ofNat64 n).toNat = n := by
    intro n hle
    exact Counter.toNat_ofNat64_of_lt (by omega)
  refine ⟨UInt64.toNat_inj.1 ?_, hexact _ List.countP_le_length, hexact _ List.countP_le_length⟩
  exact (hexact _ (Nat.le_refl _)).trans hlength

end Simulation

/-- A run whose ticks all succeed and that ends as intended, at its limit or by the first stop that
was requested, reports this with the number of its ticks and the collected counts, exactly if an
instant comes after that of its last tick. Otherwise it fails, since the time source could not
advance the clock for a tick that was never to be executed.

This is for the turns of `TimeSource.next` and `TimeSource.close`, where the producer moves only
while the loop waits for a value or for its end, and for stops requested before the run, by sources
and by the observer. A producer that moves at any time can be one instant further, and fail for
want of the next but one. Past the last instant there is no order in which it does not fail: if the
loop has received an instant without a later one, the producer ends with this error only, whoever
requests a stop and whenever. -/
theorem ended_run_reported {σ ω : Type} [Submitter σ] [Observer ω] {sim : Simulation σ}
    {requested : List String} {observer : ω} {summaries : List TickSummary} {stage : Stage σ ω}
    {endReason : EndReason} (hidle : sim.status ≠ .stopped)
    (h : sim.Executed requested observer summaries stage)
    (hended : sim.Ended summaries stage endReason) :
    (endReason = .maxTicksReached →
      (SimulationResult.ofTicks endReason summaries).totalTicks = sim.maxTicks ∧
      (SimulationResult.ofTicks endReason summaries).bound.toNat =
        summaries.countP (·.placement.isBound) ∧
      (SimulationResult.ofTicks endReason summaries).requeued.toNat =
        summaries.countP (·.placement.isRequeued)) ∧
    (∀ rounds, summaries.length < rounds →
      ((∀ last, summaries.getLast? = some last → last.clock.advance? sim.step ≠ none) →
        (sim.run rounds (StopRequest.none.requestAll requested) observer).2.result? =
          some (.ok (.ofTicks endReason summaries))) ∧
      ∀ last, summaries.getLast? = some last → last.clock.advance? sim.step = none →
        (sim.run rounds (StopRequest.none.requestAll requested) observer).2.result? =
          some (.error (.timeSource (.overflow last.clock sim.step)))) ∧
    ∀ (trace : List Delivery.Occurrence) (d : Delivery),
      (Delivery.start sim.start sim.step).Steps trace d →
      ∀ last ∈ Delivery.received trace, last.advance? sim.step = none →
      ∀ outcome, d.source.producer = .ended outcome →
        outcome = .failed (.overflow last sim.step) := by
  refine ⟨fun hreason => ?_, fun rounds hrounds => ?_, ?_⟩
  · cases hended with
    | limit hlimit => exact h.totals hlimit _
    | stop => cases hreason
  · rw [Simulation.result?_run hidle h hended hrounds]
    refine ⟨fun hlater => ?_, fun last hlast hnone => ?_⟩
    · obtain ⟨later, hclock⟩ := Simulation.exists_clockAfter hlater
      rw [hclock]
    · rw [Simulation.clockAfter_eq_error hlast hnone]
  · intro trace d hsteps last hmem hnone outcome hended
    have hsent := hsteps.inOrder.at_most_one_ahead.1.subset hmem
    exact hsteps.inOrder.failed_of_mem hsent hnone hended

/-- A simulation of one tick, with ten seconds from tick to tick. -/
def Simulation.single (start : Instant) : Simulation Script :=
  { Simulation.new (.new [.new "node-a" (.ofList [("cpu", 4)])] .leastAllocated) start
      ⟨10 * nanosPerSecond, by decide, by decide⟩ with
    maxTicks := 1 }

/-- The only tick of the simulation is idle, and reaches the limit. -/
theorem Simulation.single_ended (start : Instant) :
    ∃ stage : Stage Script Unit,
      (single start).Executed [] () [⟨1, start, 0, .idle, 0⟩] stage ∧
      (single start).Ended [⟨1, start, 0, .idle, 0⟩] stage .maxTicksReached := by
  have hbelow : ¬ (single start).LimitReached 0 := fun h => Nat.not_succ_le_zero 0 h.2
  have hlimit : (single start).LimitReached 1 := ⟨Nat.one_pos, Nat.le_refl 1⟩
  exact ⟨_, .tick .start rfl hbelow rfl rfl, .limit hlimit⟩

/-- A limit of one tick, with an instant for a second one and without. Without one the producer
fails even if a stop is requested before it advances its clock. -/
theorem ended_run_reported_single_tick :
    ((Simulation.single .epoch).run 2 .none ()).2.result? =
      some (.ok ⟨.maxTicksReached, some ⟨1, .epoch, 0, .idle, 0⟩, 1, 0, 0⟩) ∧
    ((Simulation.single .latest).run 2 .none ()).2.result? =
      some (.error (.timeSource (.overflow .latest (Simulation.single .latest).step))) ∧
    ∃ d, (Delivery.start .latest (Simulation.single .latest).step).Steps
        [.silent, .sent .latest, .silent, .received .latest, .requested "ctrl-c", .silent] d ∧
      ∀ outcome, d.source.producer = .ended outcome →
        outcome = .failed (.overflow .latest (Simulation.single .latest).step) := by
  obtain ⟨_, hepoch, hfirst⟩ := Simulation.single_ended .epoch
  obtain ⟨_, hlatest, hlast⟩ := Simulation.single_ended .latest
  obtain ⟨-, hreported, -⟩ := ended_run_reported (by decide) hepoch hfirst
  obtain ⟨-, hfails, hevery⟩ := ended_run_reported (by decide) hlatest hlast
  have hsteps : (Delivery.start .latest (Simulation.single .latest).step).Steps
      [.silent, .sent .latest, .silent, .received .latest, .requested "ctrl-c", .silent] _ :=
    .step (.step (.step (.step (.step (.step (.refl _) (.look rfl)) (.send rfl rfl rfl))
      (.await rfl rfl)) (.receive rfl rfl)) (.request _ "ctrl-c")) (.advance rfl rfl)
  refine ⟨(hreported 2 (by decide)).1 fun last heq => ?_, (hfails 2 (by decide)).2 _ rfl (by decide),
    _, hsteps, hevery _ _ hsteps .latest (by decide) (by decide)⟩
  obtain rfl := Option.some.inj heq
  decide

/-- The only tick at the last instant succeeds and reaches the limit, and yet the run fails. -/
theorem ended_run_fails_at_latest :
    ¬ ∀ (sim : Simulation Script) (summaries : List TickSummary) (stage : Stage Script Unit)
      (endReason : EndReason), sim.status ≠ .stopped → sim.Executed [] () summaries stage →
      sim.Ended summaries stage endReason → ∀ rounds, summaries.length < rounds →
      (sim.run rounds .none ()).2.result? = some (.ok (.ofTicks endReason summaries)) := by
  intro h
  obtain ⟨_, hlatest, hlast⟩ := Simulation.single_ended .latest
  have hrun := h (.single .latest) _ _ _ (by decide) hlatest hlast 2 (by decide)
  have hfail : ((Simulation.single .latest).run 2 .none ()).2.result? =
      some (.error (.timeSource (.overflow .latest (Simulation.single .latest).step))) := rfl
  rw [hfail] at hrun
  cases hrun

end ClusterSim
