import ClusterSim.Proofs.Simulation.Accounts
import ClusterSim.Proofs.Simulation.Rounds
import ClusterSim.Workload

/-!
# A run is a plain iteration of ticks

The iteration goes on until the first of these: the limit is reached, a stop has been requested,
there is no instant for one more tick, or a tick fails (`Concluded`). Main statement:
`run_is_iteration`. However many rounds a run is given, it executes the ticks of the iteration and
no other, and when the iteration has concluded it ends with the same cluster, observer and result.
-/

namespace ClusterSim

variable {σ ω : Type}

/-- The stage after a tick that failed, of which the observer is not told. -/
def Stage.failed (stage : Stage σ ω) (outcome : TickOutcome σ) : Stage σ ω :=
  { cluster := outcome.cluster
    sources := outcome.intake.sources
    supply := outcome.intake.supply
    observer := stage.observer
    stops := stage.stops ++ outcome.intake.stops }

namespace Simulation

/-- The iteration has come to its end: the ticks that succeeded, the last stage, and the result. -/
inductive Concluded [Submitter σ] [Observer ω] (sim : Simulation σ) (requested : List String)
    (observer : ω) : List TickSummary → Stage σ ω → Except RunError SimulationResult → Prop
  /-- At the limit, whether a stop has been requested or not. -/
  | limit {summaries : List TickSummary} {stage : Stage σ ω}
      (past : sim.Executed requested observer summaries stage)
      (hlimit : sim.LimitReached summaries.length) :
      Concluded sim requested observer summaries stage (sim.conclusion .maxTicksReached summaries)
  /-- By a stop, requested before the first tick or during the last one. -/
  | stop {summaries : List TickSummary} {stage : Stage σ ω} {reason : String}
      (past : sim.Executed requested observer summaries stage)
      (hlimit : ¬ sim.LimitReached summaries.length) (hstop : stage.stops.head? = some reason) :
      Concluded sim requested observer summaries stage (sim.conclusion (.stopped reason) summaries)
  /-- For want of an instant for the next tick. -/
  | exhausted {summaries : List TickSummary} {stage : Stage σ ω} {error : ClockError}
      (past : sim.Executed requested observer summaries stage)
      (hlimit : ¬ sim.LimitReached summaries.length) (hstop : stage.stops = [])
      (hclock : sim.clockAfter summaries = .error error) :
      Concluded sim requested observer summaries stage (.error (.timeSource error))
  /-- By a tick that fails. -/
  | failed {summaries : List TickSummary} {stage : Stage σ ω} {clock : Instant} {error : TickError}
      (past : sim.Executed requested observer summaries stage)
      (hlimit : ¬ sim.LimitReached summaries.length) (hstop : stage.stops = [])
      (hclock : sim.clockAfter summaries = .ok clock)
      (hresult : (stage.tick (Counter.ofNat64 (summaries.length + 1)) clock).result =
        .error error) :
      Concluded sim requested observer summaries
        (stage.failed (stage.tick (Counter.ofNat64 (summaries.length + 1)) clock))
        (.error (.tick error))

end Simulation

/-! ### The last round -/

namespace Run

/-- The run has ended with this result, and has left the cluster, its sources and the observer as
they are at this stage. -/
def EndsWith (sim : Simulation σ) (stage : Stage σ ω) (result : Except RunError SimulationResult)
    (progress : Progress σ ω) : Prop :=
  ∃ ended, progress = .finished ended result ∧
    ended.simulation = { sim with
      cluster := stage.cluster
      sources := stage.sources
      supply := stage.supply
      status := .stopped } ∧
    ended.observer = stage.observer

section Ends

variable {sim : Simulation σ} {summaries : List TickSummary} {stage : Stage σ ω}

theorem endsWith_finish_reached (sim : Simulation σ) (summaries : List TickSummary)
    (stage : Stage σ ω) (endReason : EndReason) :
    EndsWith sim stage (sim.conclusion endReason summaries)
      ((reached sim summaries stage).finish (.reached endReason)).2 :=
  ⟨_, finish_reached_eq sim summaries stage endReason, rfl, rfl⟩

/-- The run after one more tick of which the observer has not been told. -/
def ticked (run : Run σ ω) (outcome : TickOutcome σ) : Run σ ω :=
  { run with
    simulation := { run.simulation with
      cluster := outcome.cluster
      sources := outcome.intake.sources
      supply := outcome.intake.supply }
    stop := run.stop.requestAll outcome.intake.stops }

variable [Submitter σ] [Observer ω]

/-- A tick that fails ends the run; the observer is not told. -/
theorem executeTick_of_error {run : Run σ ω} {clock : Instant} {outcome : TickOutcome σ}
    {error : TickError}
    (houtcome : run.simulation.cluster.tick (Counter.next64 run.ticks) clock
      run.simulation.supply run.simulation.sources = outcome)
    (hresult : outcome.result = .error error) :
    (run.executeTick clock).2 = ((run.ticked outcome).finish (.failed error)).2 := by
  subst houtcome
  unfold executeTick
  simp only [hresult]
  rfl

theorem endsWith_round_of_exhausted {error : ClockError} (hstop : stage.stops = [])
    (hclock : sim.clockAfter summaries = .error error) :
    EndsWith sim stage (.error (.timeSource error)) (reached sim summaries stage).round.2 := by
  have hreason := stop_reached_of_nil sim summaries hstop
  have hnext : (reached sim summaries stage).timeSource.next (reached sim summaries stage).stop =
      (none, (reached sim summaries stage).timeSource) := by
    show (TimeSource.holding sim.step (sim.clockAfter summaries)).next _ =
      (none, TimeSource.holding sim.step (sim.clockAfter summaries))
    rw [hclock]
    exact TimeSource.next_holding_error _ sim.step error
  have hclosed := failure?_close_reached sim summaries stage
  simp only [hclock] at hclosed
  unfold round
  simp only [hreason, hnext]
  rw [finish_eq, hclosed]
  exact ⟨_, rfl, rfl, rfl⟩

theorem endsWith_round_of_failed {clock : Instant} {error : TickError} (hstop : stage.stops = [])
    (hclock : sim.clockAfter summaries = .ok clock)
    (hresult : (stage.tick (Counter.ofNat64 (summaries.length + 1)) clock).result =
      .error error) :
    EndsWith sim (stage.failed (stage.tick (Counter.ofNat64 (summaries.length + 1)) clock))
      (.error (.tick error)) (reached sim summaries stage).round.2 := by
  have houtcome : (awaited sim summaries stage clock).simulation.cluster.tick
      (Counter.next64 (awaited sim summaries stage clock).ticks) clock
      (awaited sim summaries stage clock).simulation.supply
      (awaited sim summaries stage clock).simulation.sources =
      stage.tick (Counter.ofNat64 (summaries.length + 1)) clock := by
    show stage.cluster.tick (Counter.next64 (Counter.ofNat64 summaries.length)) clock
      stage.supply stage.sources = _
    rw [Counter.next64_ofNat64]
    rfl
  rw [round_reached_eq hstop hclock, executeTick_of_error houtcome hresult, finish_eq]
  exact ⟨_, rfl, rfl, rfl⟩

/-! ### All rounds -/

variable {requested : List String} {observer : ω} {result : Except RunError SimulationResult}

/-- A round that ends the run is the last one. -/
theorem EndsWith.rounds {run : Run σ ω} (h : EndsWith sim stage result run.round.2) (fuel : Nat) :
    EndsWith sim stage result (run.rounds (fuel + 1)).2 := by
  obtain ⟨ended, hround, hsimulation, hobserver⟩ := h
  exact ⟨ended, rounds_of_finished hround fuel, hsimulation, hobserver⟩

/-- When the iteration has concluded, the run ends with it, in one round more than ticks at the
latest. -/
theorem endsWith_of_concluded (h : sim.Concluded requested observer summaries stage result)
    (fuel : Nat) :
    EndsWith sim stage result
      ((reached sim [] (.start sim requested observer)).rounds
        (summaries.length + (fuel + 1))).2 := by
  cases h with
  | limit past hlimit =>
    rw [rounds_of_limit past hlimit]
    exact endsWith_finish_reached sim summaries stage .maxTicksReached
  | stop past hlimit hstop =>
    rw [rounds_of_stop past hlimit hstop]
    exact endsWith_finish_reached sim summaries stage _
  | exhausted past hlimit hstop hclock =>
    rw [rounds_of_executed past hlimit]
    exact (endsWith_round_of_exhausted hstop hclock).rounds fuel
  | failed past hlimit hstop hclock hresult =>
    rw [rounds_of_executed past hlimit]
    exact (endsWith_round_of_failed hstop hclock hresult).rounds fuel

end Ends

end Run

namespace Simulation

variable [Submitter σ] [Observer ω] {sim : Simulation σ} {requested : List String} {observer : ω}
  {summaries : List TickSummary} {stage : Stage σ ω}

/-- The iteration either goes on by one more tick or concludes. -/
theorem Executed.next_or_concluded (h : sim.Executed requested observer summaries stage) :
    (∃ summary later, sim.Executed requested observer (summaries ++ [summary]) later) ∨
      ∃ last result, sim.Concluded requested observer summaries last result := by
  by_cases hlimit : sim.LimitReached summaries.length
  · exact .inr ⟨_, _, .limit h hlimit⟩
  cases hstop : stage.stops with
  | cons reason more => exact .inr ⟨_, _, .stop h hlimit (congrArg List.head? hstop)⟩
  | nil =>
    cases hclock : sim.clockAfter summaries with
    | error error => exact .inr ⟨_, _, .exhausted h hlimit hstop hclock⟩
    | ok clock =>
      cases hresult : (stage.tick (Counter.ofNat64 (summaries.length + 1)) clock).result with
      | error error => exact .inr ⟨_, _, .failed h hlimit hstop hclock hresult⟩
      | ok summary => exact .inl ⟨summary, _, .tick h hstop hlimit hclock hresult⟩

/-- The iteration makes any number of ticks unless it concludes before. -/
theorem executed_or_concluded (sim : Simulation σ) (requested : List String) (observer : ω)
    (count : Nat) :
    (∃ summaries stage, sim.Executed requested observer summaries stage ∧
      summaries.length = count) ∨
    ∃ summaries stage result, sim.Concluded requested observer summaries stage result ∧
      summaries.length < count := by
  induction count with
  | zero => exact .inl ⟨[], _, .start, rfl⟩
  | succ count ih =>
    rcases ih with ⟨summaries, stage, hexecuted, hlength⟩ | ⟨summaries, stage, result, hover, hlt⟩
    · rcases hexecuted.next_or_concluded with ⟨summary, later, hnext⟩ | ⟨last, result, hover⟩
      · refine .inl ⟨_, later, hnext, ?_⟩
        rw [List.length_append, List.length_singleton, hlength]
      · exact .inr ⟨summaries, last, result, hover, by omega⟩
    · exact .inr ⟨summaries, stage, result, hover, by omega⟩

/-- The totals of a run that has executed these ticks and has reached this stage. -/
structure Accounted (sim : Simulation σ) (summaries : List TickSummary) (stage : Stage σ ω)
    (totals : SimulationResult) : Prop where
  totalTicks : totals.totalTicks.toNat = summaries.length
  final : totals.final = summaries.getLast?
  bound : totals.bound.toNat = summaries.countP (·.placement.isBound)
  requeued : totals.requeued.toNat = summaries.countP (·.placement.isRequeued)
  /-- The pods that were bound are on the nodes. -/
  held : stage.cluster.heldCount = sim.cluster.heldCount + totals.bound.toNat
  /-- In a cluster that was new, how often pods were placed back is what the queue shows. -/
  placedBack : ∀ nodes strategy, sim.cluster = .new nodes strategy → summaries.length < UInt32.size →
    stage.cluster.queue.requeueCount = totals.requeued.toNat

theorem Executed.accounted (h : sim.Executed requested observer summaries stage)
    (hshort : summaries.length < UInt64.size) (endReason : EndReason) :
    sim.Accounted summaries stage (.ofTicks endReason summaries) := by
  have hexact : ∀ n, n ≤ summaries.length → (Counter.ofNat64 n).toNat = n := by
    intro n hle
    exact Counter.toNat_ofNat64_of_lt (Nat.lt_of_le_of_lt hle hshort)
  have hbound := hexact _ (List.countP_le_length (p := fun s => s.placement.isBound))
  have hrequeued := hexact _ (List.countP_le_length (p := fun s => s.placement.isRequeued))
  refine ⟨hexact _ (Nat.le_refl _), rfl, hbound, hrequeued, ?_, ?_⟩
  · exact h.heldCount.trans (congrArg (_ + ·) hbound.symm)
  · intro nodes strategy hnew hticks
    have hhopeless : sim.cluster.Hopeless := hnew ▸ Cluster.hopeless_new nodes strategy
    have hnone : sim.cluster.queue.requeueCount = 0 := by
      rw [hnew]
      rfl
    exact (h.requeueCount hhopeless hnone hticks).trans hrequeued.symm

theorem Concluded.accounted {result : Except RunError SimulationResult}
    (h : sim.Concluded requested observer summaries stage result)
    (hshort : summaries.length < UInt64.size) {clock : Instant}
    (hclock : TimeSource.due sim.start sim.step summaries.length = .ok clock) :
    (∃ error, result = .error (.tick error)) ∨
      ∃ totals, result = .ok totals ∧ sim.Accounted summaries stage totals := by
  cases h with
  | limit past hlimit =>
    rw [← past.clockAfter_eq_due] at hclock
    rw [conclusion, hclock]
    exact .inr ⟨_, rfl, past.accounted hshort _⟩
  | stop past hlimit hstop =>
    rw [← past.clockAfter_eq_due] at hclock
    rw [conclusion, hclock]
    exact .inr ⟨_, rfl, past.accounted hshort _⟩
  | exhausted past hlimit hstop herror =>
    rw [← past.clockAfter_eq_due, herror] at hclock
    cases hclock
  | failed => exact .inl ⟨_, rfl⟩

end Simulation

/-- A simulation that has not run executes the ticks of the iteration, as many as it is given rounds
until the iteration concludes, and no other; then it ends with the result of the iteration, and the
cluster, the sources and the observer are as the iteration leaves them. The ticks are numbered and
timed one after the other, each acts on what the one before it has left, and the observer is told of
each once. If there is an instant for one more tick, a run that no failed tick has ended reports its
ticks with their last summary and their exact counts, which are those of the cluster. -/
theorem run_is_iteration {σ ω : Type} [Submitter σ] [Observer ω] {sim : Simulation σ}
    (hidle : sim.status = .idle) (requested : List String) (observer : ω) :
    (∀ rounds,
      (∃ summaries stage, sim.Executed requested observer summaries stage ∧
        summaries.length = rounds) ∨
      ∃ summaries stage result, sim.Concluded requested observer summaries stage result ∧
        summaries.length < rounds) ∧
    (∀ summaries (stage : Stage σ ω), sim.Executed requested observer summaries stage →
      sim.Recorded observer summaries stage ∧
      sim.clockAfter summaries = TimeSource.due sim.start sim.step summaries.length ∧
      (¬ sim.LimitReached summaries.length →
        (sim.run summaries.length (StopRequest.none.requestAll requested) observer).2 =
          .running (.reached sim summaries stage))) ∧
    ∀ summaries (stage : Stage σ ω) result,
      sim.Concluded requested observer summaries stage result →
      (∀ rounds, summaries.length < rounds →
        Run.EndsWith sim stage result
          (sim.run rounds (StopRequest.none.requestAll requested) observer).2) ∧
      (summaries.length < UInt64.size →
        ∀ clock, TimeSource.due sim.start sim.step summaries.length = .ok clock →
        (∃ error, result = .error (.tick error)) ∨
          ∃ totals, result = .ok totals ∧ sim.Accounted summaries stage totals) := by
  have hstopped : sim.status ≠ .stopped := by
    rw [hidle]
    decide
  have hrun : ∀ rounds,
      (sim.run rounds (StopRequest.none.requestAll requested) observer).2 =
        ((Run.reached sim [] (.start sim requested observer)).rounds rounds).2 := by
    intro rounds
    rw [Simulation.run, if_neg hstopped, Run.start_eq_reached]
    rfl
  refine ⟨sim.executed_or_concluded requested observer, fun summaries stage h => ?_,
    fun summaries stage result h => ⟨fun rounds hrounds => ?_, fun hshort clock hclock => ?_⟩⟩
  · refine ⟨h.recorded, h.clockAfter_eq_due, fun hlimit => ?_⟩
    rw [hrun]
    exact Run.rounds_of_executed h hlimit 0
  · obtain ⟨fuel, rfl⟩ := Nat.exists_eq_add_of_lt hrounds
    rw [hrun, Nat.add_assoc]
    exact Run.endsWith_of_concluded h fuel
  · exact h.accounted hshort hclock

/-- A simulation of two ticks, with one pod that is too big for its node and one that is not. -/
def Simulation.pair : Simulation Script where
  cluster := .new [.new "node-a" (.ofList [("cpu", 1000)])] .leastAllocated
  sources := [⟨[[.new ⟨7⟩ "big" (.ofList [("cpu", 1001)]) 5,
    .new ⟨8⟩ "web" (.ofList [("cpu", 300)]) 5]]⟩]
  supply := .fresh
  start := .epoch
  step := ⟨60 * nanosPerSecond, by decide, by decide⟩
  maxTicks := 2
  status := .idle

/-- The pod that is too big goes back in the first tick, and the other one is bound in the second. -/
theorem run_is_iteration_two_ticks :
    Simulation.pair.status = .idle ∧
    ∃ (stage : Stage Script Unit) (totals : SimulationResult),
      Run.EndsWith Simulation.pair stage (.ok totals) (Simulation.pair.run 3 .none ()).2 ∧
      totals.totalTicks.toNat = 2 ∧ stage.cluster.heldCount = 1 ∧
      stage.cluster.queue.requeueCount = 1 := by
  have hfirst : ¬ Simulation.pair.LimitReached 0 := by decide
  have hsecond : ¬ Simulation.pair.LimitReached 1 := by decide
  have hlimit : Simulation.pair.LimitReached 2 := by decide
  obtain ⟨summaries, stage, hexecuted, hlength, hbound, hrequeued⟩ :
      ∃ (summaries : List TickSummary) (stage : Stage Script Unit),
        Simulation.pair.Executed [] () summaries stage ∧ summaries.length = 2 ∧
        summaries.countP (·.placement.isBound) = 1 ∧
        summaries.countP (·.placement.isRequeued) = 1 :=
    ⟨_, _, .tick (.tick .start rfl hfirst rfl rfl) rfl hsecond rfl rfl, rfl, rfl, rfl⟩
  obtain ⟨clock, hclock⟩ : ∃ clock,
      TimeSource.due Simulation.pair.start Simulation.pair.step summaries.length = .ok clock := by
    rw [hlength]
    exact ⟨_, rfl⟩
  have hreported : Simulation.pair.conclusion .maxTicksReached summaries =
      .ok (.ofTicks .maxTicksReached summaries) := by
    rw [Simulation.conclusion, hexecuted.clockAfter_eq_due, hclock]
  have hover := Simulation.Concluded.limit hexecuted (hlength ▸ hlimit)
  obtain ⟨hends, htotals⟩ := (run_is_iteration rfl [] ()).2.2 summaries stage _ hover
  rcases htotals (hlength ▸ by decide) clock hclock with ⟨error, hfailed⟩ | ⟨totals, hok, haccounts⟩
  · rw [hreported] at hfailed
    cases hfailed
  · have hcounted := haccounts.placedBack _ _ rfl (hlength ▸ by decide)
    refine ⟨rfl, stage, totals, hok ▸ hends 3 (by omega), haccounts.totalTicks.trans hlength, ?_,
      hcounted.trans (haccounts.requeued.trans hrequeued)⟩
    rw [haccounts.held, haccounts.bound, hbound]
    rfl

end ClusterSim
