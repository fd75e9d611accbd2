import ClusterSim.Proofs.Tick.Step

/-!
# Courses of ticks

Any number of ticks one after the other, each on what the last one left, with a number, a clock,
a supply of identities and sources of any kind; a tick whose sources failed is followed by others
like any tick. What is recorded of each tick is its part in the history of the cluster.
-/

namespace ClusterSim

/-- What is recorded of a tick. -/
structure TickRecord where
  before : Cluster
  number : UInt64
  clock : Instant
  /-- The pods that the sources returned, in order. -/
  returned : List Pod
  /-- The entry of the queue that was tried. -/
  entry : Option QueuedPod
  result : Except TickError TickSummary
  after : Cluster

namespace TickRecord

/-- The cluster when the sources had been asked. -/
def filled (record : TickRecord) : Cluster :=
  { record.before with
    queue := record.before.queue.pushAll (record.returned.map (Pod.stamp record.clock)) }

/-- The two ways in which a tick can go: a source fails, or a pod is placed. -/
inductive Lawful (record : TickRecord) : Prop
  | failed {error : SubmitError} (hresult : record.result = .error (.submitter error))
      (hentry : record.entry = none) (hafter : record.after = record.filled)
  | placed {placement : Except TickError Placement}
      (hplaced : record.filled.Placed record.clock record.after record.entry placement)
      (hresult : record.result = placement.map fun placement =>
        { tick := record.number
          clock := record.clock
          submitted := record.returned.length
          placement
          pending := record.after.queue.size })

/-- What holds when the sources have been asked, and is kept by a placement, holds after a tick. -/
theorem Lawful.after_of {record : TickRecord} {P : Cluster → Prop} (h : record.Lawful)
    (filled : P record.filled)
    (placed : ∀ {after : Cluster} {entry : Option QueuedPod}
      {placement : Except TickError Placement},
      record.filled.Placed record.clock after entry placement → P after) : P record.after := by
  cases h with
  | failed _ _ hafter => exact hafter ▸ filled
  | placed hplaced _ => exact placed hplaced

/-- A tick that succeeded has placed a pod, and its summary repeats what is recorded. -/
theorem Lawful.of_ok {record : TickRecord} (h : record.Lawful) {summary : TickSummary}
    (hok : record.result = .ok summary) :
    record.filled.Placed record.clock record.after record.entry (.ok summary.placement) ∧
      summary.tick = record.number ∧ summary.clock = record.clock ∧
      summary.pending = record.after.queue.size := by
  cases h with
  | failed hresult =>
    rw [hresult] at hok
    cases hok
  | @placed placement hplaced hresult =>
    rw [hresult] at hok
    cases placement with
    | error error => cases hok
    | ok placement =>
      obtain rfl := Except.ok.inj hok
      exact ⟨hplaced, rfl, rfl, rfl⟩

/-- A tick that succeeded has placed a pod as its summary says. -/
theorem Lawful.placed_of_ok {record : TickRecord} (h : record.Lawful) {summary : TickSummary}
    (hok : record.result = .ok summary) :
    record.filled.Placed record.clock record.after record.entry (.ok summary.placement) :=
  (h.of_ok hok).1

end TickRecord

/-- The record of a tick. -/
def Cluster.record {σ : Type} [Submitter σ] (cluster : Cluster) (number : UInt64) (now : Instant)
    (supply : PodId.Supply) (sources : List σ) : TickRecord :=
  let outcome := cluster.tick number now supply sources
  { before := cluster
    number
    clock := now
    returned := Submitter.returned now (cluster.snapshots now) supply sources
    entry := outcome.attempt.map (·.entry)
    result := outcome.result
    after := outcome.cluster }

theorem Cluster.lawful_record {σ : Type} [Submitter σ] (cluster : Cluster) (number : UInt64)
    (now : Instant) (supply : PodId.Supply) (sources : List σ) :
    (cluster.record number now supply sources).Lawful := by
  rcases tick_cases (rfl : cluster.tick number now supply sources = _) with
    ⟨error, -, hcluster, hattempt, hresult⟩ | ⟨-, placement, hplaced, hresult⟩
  · refine .failed hresult ?_ hcluster
    show Option.map _ (cluster.tick number now supply sources).attempt = none
    rw [hattempt]
    rfl
  · exact .placed hplaced hresult

/-- The courses of ticks from a cluster, with the records of the ticks and the cluster reached. -/
inductive Course (origin : Cluster) : List TickRecord → Cluster → Prop
  /-- No tick. -/
  | start : Course origin [] origin
  /-- One more tick. -/
  | next {σ : Type} [Submitter σ] {records : List TickRecord} {cluster : Cluster}
      (past : Course origin records cluster) (number : UInt64) (now : Instant)
      (supply : PodId.Supply) (sources : List σ) :
      Course origin (records ++ [cluster.record number now supply sources])
        (cluster.tick number now supply sources).cluster

namespace Course

variable {origin : Cluster} {records : List TickRecord} {cluster : Cluster}

/-- What every lawful record keeps, a course keeps. -/
theorem lawful_induction
    {motive : ∀ records cluster, Course origin records cluster → Prop}
    (start : motive [] origin .start)
    (next : ∀ {records : List TickRecord} {record : TickRecord}
      (past : Course origin records record.before) (_ : record.Lawful)
      (course : Course origin (records ++ [record]) record.after),
      motive _ _ past → motive _ _ course)
    (h : Course origin records cluster) : motive records cluster h := by
  induction h with
  | start => exact start
  | next past number now supply sources ih =>
    exact next past (Cluster.lawful_record _ number now supply sources)
      (.next past number now supply sources) ih

/-- Every node stays under its own name, since neither names nor keys change. -/
theorem keyed (h : Course origin records cluster) (horigin : origin.Keyed) : cluster.Keyed := by
  induction h using lawful_induction with
  | start => exact horigin
  | @next _ record _ lawful _ ih =>
    have hfilled : record.filled.Keyed := ih
    exact lawful.after_of hfilled hfilled.placed

theorem lawful_of_mem (h : Course origin records cluster) (horigin : origin.Keyed) :
    ∀ record ∈ records, record.Lawful ∧ record.before.Keyed := by
  induction h using lawful_induction with
  | start =>
    intro record hmem
    cases hmem
  | next past lawful _ ih =>
    intro record hmem
    rcases List.mem_append.1 hmem with hmem | hmem
    · exact ih record hmem
    · rw [List.mem_singleton.1 hmem]
      exact ⟨lawful, past.keyed horigin⟩

end Course

end ClusterSim
