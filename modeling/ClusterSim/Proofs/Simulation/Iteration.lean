import ClusterSim.Simulation

/-!
# Plain iteration of ticks

What a simulation is meant to do, without a time source that runs ahead: tick after tick, numbered
from 1, the first at the start and each later one a step after the one before it, until a stop has
been requested or the limit is reached. `Executed` are the ticks that have been executed so far.
-/

namespace ClusterSim

/-! ### Counting -/

namespace Counter

/-- A counter of 64 bits that has counted so often. -/
def ofNat64 (n : Nat) : UInt64 := .ofNat (min n (UInt64.size - 1))

theorem toNat_ofNat64 (n : Nat) : (ofNat64 n).toNat = min n (UInt64.size - 1) := by
  rw [ofNat64, UInt64.toNat_ofNat_of_lt']
  unfold UInt64.size
  omega

theorem toNat_ofNat64_of_lt {n : Nat} (h : n < UInt64.size) : (ofNat64 n).toNat = n := by
  rw [toNat_ofNat64]
  omega

theorem next64_ofNat64 (n : Nat) : next64 (ofNat64 n) = ofNat64 (n + 1) := by
  refine UInt64.toNat_inj.1 ?_
  rw [toNat_next64, toNat_ofNat64, toNat_ofNat64]
  omega

/-- A limit is reached by the counter exactly when it is reached by the count. -/
theorem le_ofNat64_iff (limit : UInt64) (n : Nat) : limit ≤ ofNat64 n ↔ limit.toNat ≤ n := by
  have hlt := limit.toNat_lt
  rw [UInt64.le_iff_toNat_le, toNat_ofNat64]
  unfold UInt64.size
  omega

/-- Counting one more element of a list that is a case of what is counted. -/
theorem ofNat64_countP_append {α : Type} (p : α → Bool) (l : List α) (a : α) :
    ofNat64 ((l ++ [a]).countP p) =
      if p a then next64 (ofNat64 (l.countP p)) else ofNat64 (l.countP p) := by
  rw [List.countP_append, List.countP_singleton]
  split
  · rw [next64_ofNat64]
  · rfl

end Counter

namespace Placement

/-- Whether the pod was bound. -/
def isBound : Placement → Bool
  | .bound _ _ => true
  | _ => false

/-- Whether the pod was placed back. -/
def isRequeued : Placement → Bool
  | .requeued _ _ => true
  | _ => false

end Placement

/-- The result of a run with these ticks. -/
def SimulationResult.ofTicks (endReason : EndReason) (summaries : List TickSummary) :
    SimulationResult :=
  { endReason
    final := summaries.getLast?
    totalTicks := Counter.ofNat64 summaries.length
    bound := Counter.ofNat64 (summaries.countP (·.placement.isBound))
    requeued := Counter.ofNat64 (summaries.countP (·.placement.isRequeued)) }

/-! ### Stages -/

/-- What the ticks of a simulation act on. -/
structure Stage (σ ω : Type) where
  cluster : Cluster
  sources : List σ
  supply : PodId.Supply
  observer : ω
  /-- The reasons of all stops requested so far, in order. -/
  stops : List String

namespace Stage

variable {σ ω : Type}

/-- The stage before the first tick. -/
def start (sim : Simulation σ) (requested : List String) (observer : ω) : Stage σ ω :=
  { cluster := sim.cluster
    sources := sim.sources
    supply := sim.supply
    observer
    stops := requested }

/-- The tick that comes next, with its number and its instant. -/
def tick [Submitter σ] (stage : Stage σ ω) (number : UInt64) (clock : Instant) : TickOutcome σ :=
  stage.cluster.tick number clock stage.supply stage.sources

/-- The stage after a tick of which the observer has been told. -/
def told [Observer ω] (stage : Stage σ ω) (outcome : TickOutcome σ) (summary : TickSummary) :
    Stage σ ω :=
  let observation := Observer.observe stage.observer summary outcome.cluster
  { cluster := outcome.cluster
    sources := outcome.intake.sources
    supply := outcome.intake.supply
    observer := observation.observer
    stops := stage.stops ++ outcome.intake.stops ++ observation.stops }

end Stage

/-! ### Iteration -/

namespace Simulation

variable {σ ω : Type}

/-- Whether so many ticks reach the limit. -/
def LimitReached (sim : Simulation σ) (count : Nat) : Prop :=
  0 < sim.maxTicks.toNat ∧ sim.maxTicks.toNat ≤ count

instance (sim : Simulation σ) (count : Nat) : Decidable (sim.LimitReached count) :=
  inferInstanceAs (Decidable (_ ∧ _))

/-- The instant of the tick that comes after the given ones, or the error that there is none. -/
def clockAfter (sim : Simulation σ) (summaries : List TickSummary) : Except ClockError Instant :=
  match summaries.getLast? with
  | none => .ok sim.start
  | some last => last.clock.advance sim.step

theorem clockAfter_append (sim : Simulation σ) (summaries : List TickSummary)
    (summary : TickSummary) :
    sim.clockAfter (summaries ++ [summary]) = summary.clock.advance sim.step := by
  rw [clockAfter, List.getLast?_concat]

theorem exists_clockAfter {sim : Simulation σ} {summaries : List TickSummary}
    (h : ∀ last, summaries.getLast? = some last → last.clock.advance? sim.step ≠ none) :
    ∃ clock, sim.clockAfter summaries = .ok clock := by
  unfold clockAfter
  cases hlast : summaries.getLast? with
  | none => exact ⟨sim.start, rfl⟩
  | some last =>
    obtain ⟨later, hlater⟩ := Option.ne_none_iff_exists'.1 (h last hlast)
    refine ⟨later, ?_⟩
    simp only [Instant.advance, hlater]

theorem clockAfter_eq_error {sim : Simulation σ} {summaries : List TickSummary}
    {last : TickSummary} (hlast : summaries.getLast? = some last)
    (hnone : last.clock.advance? sim.step = none) :
    sim.clockAfter summaries = .error (.overflow last.clock sim.step) := by
  rw [clockAfter, hlast]
  simp only [Instant.advance, hnone]

/-- The summaries of the ticks that have been executed, with the stage reached. -/
inductive Executed [Submitter σ] [Observer ω] (sim : Simulation σ) (requested : List String)
    (observer : ω) : List TickSummary → Stage σ ω → Prop
  /-- No tick. -/
  | start : Executed sim requested observer [] (.start sim requested observer)
  /-- One more tick: no stop has been requested, the limit has not been reached, there is an instant
  for it, and it succeeds. -/
  | tick {summaries : List TickSummary} {stage : Stage σ ω} {clock : Instant}
      {summary : TickSummary} (past : Executed sim requested observer summaries stage)
      (hstop : stage.stops = []) (hlimit : ¬ sim.LimitReached summaries.length)
      (hclock : sim.clockAfter summaries = .ok clock)
      (hresult : (stage.tick (Counter.ofNat64 (summaries.length + 1)) clock).result =
        .ok summary) :
      Executed sim requested observer (summaries ++ [summary])
        (stage.told (stage.tick (Counter.ofNat64 (summaries.length + 1)) clock) summary)

end Simulation

end ClusterSim
