import ClusterSim.Proofs.Simulation.Iteration
import ClusterSim.Proofs.Tick.Conservation
import ClusterSim.Proofs.Tick.Retry
import ClusterSim.Proofs.TimeSource

/-!
# The accounts of an iteration

The ticks that a simulation executes form a course: they are numbered from 1, take place at the
instants that are due, and the observer is told of each of them (`Executed.recorded`). What is
counted in them is found again in the cluster: the pods that were bound are on the nodes
(`Executed.heldCount`), and how often pods were placed back is what the entries of the queue show
(`Executed.requeueCount`).
-/

namespace ClusterSim

/-- The observer when it has been told of these ticks, each with the cluster that it left. -/
def Observer.tellAll {ω : Type} [Observer ω] (observer : ω)
    (ticks : List (TickSummary × Cluster)) : ω :=
  ticks.foldl (fun observer tick => (Observer.observe observer tick.1 tick.2).observer) observer

/-! ### What a tick changes -/

namespace PodQueue

/-- How often the pods of the queue have been placed back, all in all. -/
def requeueCount (queue : PodQueue) : Nat := (queue.toList.map (·.requeues.toNat)).sum

theorem requeueCount_enqueue (queue : PodQueue) (entry : QueuedPod) :
    (queue.enqueue entry).requeueCount = entry.requeues.toNat + queue.requeueCount := by
  have hperm := (queue.toList_enqueue_perm entry).map (·.requeues.toNat)
  rw [requeueCount, hperm.sum_nat, List.map_cons, List.sum_cons]
  rfl

theorem requeueCount_pushAll (queue : PodQueue) (new : List Pod) :
    (queue.pushAll new).requeueCount = queue.requeueCount := by
  induction new generalizing queue with
  | nil => rfl
  | cons pod rest ih =>
    have hpush : (queue.push pod).requeueCount = 0 + queue.requeueCount :=
      queue.requeueCount_enqueue ⟨pod, queue.nextArrival, 0⟩
    rw [Nat.zero_add] at hpush
    exact (ih (queue.push pod)).trans hpush

theorem requeueCount_of_pop {queue rest : PodQueue} {entry : QueuedPod}
    (h : queue.pop = .ok (entry, rest)) :
    queue.requeueCount = entry.requeues.toNat + rest.requeueCount := by
  rw [requeueCount, toList_of_pop h, List.map_cons, List.sum_cons]
  rfl

end PodQueue

namespace Cluster

/-- The number of pods on the nodes. -/
def heldCount (cluster : Cluster) : Nat := (cluster.nodes.values.flatMap (·.pods)).length

section Placed

variable {cluster after : Cluster} {now : Instant} {entry : Option QueuedPod}
  {placement : Placement}

theorem heldCount_placed (hplaced : Placed cluster now after entry (.ok placement)) :
    after.heldCount = cluster.heldCount + if placement.isBound then 1 else 0 := by
  cases hplaced with
  | idle => rfl
  | requeued => rfl
  | bound _ _ hnode hbind =>
    have hperm := flatMap_pods_insert_perm hnode (Node.pods_of_bind hbind)
    exact hperm.length_eq

/-- A placement counts in the queue when a pod goes back, since a pod that leaves the queue for a
node has never been placed back. -/
theorem Hopeless.requeueCount_placed (h : cluster.Hopeless)
    (hplaced : Placed cluster now after entry (.ok placement))
    (hroom : cluster.queue.requeueCount + 1 < UInt32.size) :
    after.queue.requeueCount =
      cluster.queue.requeueCount + if placement.isRequeued then 1 else 0 := by
  cases hplaced with
  | idle => rfl
  | @requeued tried queue hpop hchoice =>
    have hcount := PodQueue.requeueCount_of_pop hpop
    have hback : (queue.placeBack tried).requeueCount =
        (Counter.next32 tried.requeues).toNat + queue.requeueCount :=
      queue.requeueCount_enqueue _
    have hnext := Counter.toNat_next32 tried.requeues
    show (queue.placeBack tried).requeueCount = cluster.queue.requeueCount + 1
    omega
  | bound hpop hchoice hnode hbind =>
    obtain ⟨tried, htried, -, hzero⟩ := h.requeues_of_bound (.bound hpop hchoice hnode hbind)
    obtain rfl := Option.some.inj htried
    have hcount := PodQueue.requeueCount_of_pop hpop
    rw [hzero, UInt32.toNat_zero, Nat.zero_add] at hcount
    exact hcount.symm

end Placed

end Cluster

/-! ### What the ticks of a simulation have changed -/

namespace Simulation

variable {σ ω : Type} [Submitter σ] [Observer ω] {sim : Simulation σ} {requested : List String}
  {observer : ω} {summaries : List TickSummary} {stage : Stage σ ω}

/-- The instant after these ticks is the one that is due. -/
theorem Executed.clockAfter_eq_due (h : sim.Executed requested observer summaries stage) :
    sim.clockAfter summaries = TimeSource.due sim.start sim.step summaries.length := by
  induction h with
  | start => rfl
  | @tick summaries _ clock summary past hstop hlimit hclock hresult ih =>
    rw [hclock] at ih
    rw [clockAfter_append, (Cluster.tick_of_result_tick hresult).2, List.length_append,
      List.length_singleton, TimeSource.due_succ_of_ok ih.symm]

/-- The ticks of a simulation, as they come one after the other. -/
structure Recorded (sim : Simulation σ) (observer : ω) (summaries : List TickSummary)
    (stage : Stage σ ω) : Prop where
  /-- They are numbered from 1. -/
  numbers : summaries.map (·.tick) =
    (List.range summaries.length).map fun k => Counter.ofNat64 (k + 1)
  /-- The first is at the start, and each other a step after the one before it. -/
  clocks : summaries.map (fun summary => Except.ok summary.clock) =
    (List.range summaries.length).map (TimeSource.due sim.start sim.step)
  /-- Each acts on what the one before it has left, and the observer is told of it once, with the
  cluster that it leaves. -/
  course : ∃ records, Course sim.cluster records stage.cluster ∧
    records.map (·.result) = summaries.map Except.ok ∧
    stage.observer = Observer.tellAll observer (summaries.zip (records.map (·.after)))

theorem Executed.recorded (h : sim.Executed requested observer summaries stage) :
    sim.Recorded observer summaries stage := by
  induction h with
  | start => exact ⟨rfl, rfl, [], .start, rfl, rfl⟩
  | @tick summaries stage clock summary past hstop hlimit hclock hresult ih =>
    obtain ⟨hnumber, hinstant⟩ := Cluster.tick_of_result_tick hresult
    obtain ⟨records, hcourse, hresults, hobserver⟩ := ih.course
    have hlength : summaries.length = (records.map (·.after)).length := by
      have heq := congrArg List.length hresults
      rw [List.length_map, List.length_map] at heq
      rw [List.length_map, heq]
    refine ⟨?_, ?_, records ++ [stage.cluster.record _ clock stage.supply stage.sources],
      hcourse.next _ clock stage.supply stage.sources, ?_, ?_⟩
    · rw [List.map_append, ih.numbers, List.length_append, List.length_singleton, List.range_succ,
        List.map_append]
      exact congrArg (_ ++ [·]) hnumber
    · rw [List.map_append, ih.clocks, List.length_append, List.length_singleton, List.range_succ,
        List.map_append]
      refine congrArg (_ ++ [·]) ?_
      show Except.ok summary.clock = _
      rw [← past.clockAfter_eq_due, hclock, hinstant]
    · rw [List.map_append, List.map_append, hresults]
      exact congrArg (_ ++ [·]) hresult
    · rw [List.map_append, List.zip_append hlength, Observer.tellAll, List.foldl_append]
      show (Observer.observe stage.observer summary _).observer =
        (Observer.observe (Observer.tellAll observer _) summary _).observer
      rw [← hobserver]
      rfl

/-- The pods that were bound are on the nodes. -/
theorem Executed.heldCount (h : sim.Executed requested observer summaries stage) :
    stage.cluster.heldCount =
      sim.cluster.heldCount + summaries.countP (·.placement.isBound) := by
  induction h with
  | start => rfl
  | @tick summaries stage clock summary past hstop hlimit hclock hresult ih =>
    have hlawful := stage.cluster.lawful_record (Counter.ofNat64 (summaries.length + 1)) clock
      stage.supply stage.sources
    have hstep := Cluster.heldCount_placed (hlawful.placed_of_ok hresult)
    rw [List.countP_append, List.countP_singleton, ← Nat.add_assoc, ← ih]
    exact hstep

/-- How often pods were placed back is what the queue shows, if it shows that none was at first. -/
theorem Executed.requeueCount (h : sim.Executed requested observer summaries stage)
    (horigin : sim.cluster.Hopeless) (hnone : sim.cluster.queue.requeueCount = 0)
    (hshort : summaries.length < UInt32.size) :
    stage.cluster.queue.requeueCount = summaries.countP (·.placement.isRequeued) := by
  induction h with
  | start => exact hnone
  | @tick summaries stage clock summary past hstop hlimit hclock hresult ih =>
    rw [List.length_append, List.length_singleton] at hshort
    have hbefore := ih (by omega)
    have hcount : summaries.countP (·.placement.isRequeued) ≤ summaries.length :=
      List.countP_le_length
    obtain ⟨records, hcourse, -⟩ := past.recorded.course
    let record := stage.cluster.record (Counter.ofNat64 (summaries.length + 1)) clock
      stage.supply stage.sources
    have hlawful : record.Lawful := Cluster.lawful_record _ _ _ _ _
    have hbeforeHopeless : record.before.Hopeless := hcourse.hopeless horigin
    have hhopeless := TickRecord.hopeless_filled hbeforeHopeless
    have hfilled : record.filled.queue.requeueCount = stage.cluster.queue.requeueCount :=
      PodQueue.requeueCount_pushAll _ _
    have hstep := hhopeless.requeueCount_placed (hlawful.placed_of_ok hresult) (by omega)
    rw [List.countP_append, List.countP_singleton, ← hbefore, ← hfilled]
    exact hstep

end Simulation

end ClusterSim
