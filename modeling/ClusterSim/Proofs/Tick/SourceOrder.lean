import ClusterSim.Proofs.Queue.Numbers
import ClusterSim.Proofs.Tick.Submission
import ClusterSim.Workload
import Mathlib.Data.List.Forall2

/-!
# The order of the sources

The pods of an earlier source get lower numbers than those of a later one, and go ahead of those
that have the same priority. Two adjacent scripts that share no priority therefore submit the same
in either order, apart from the numbers, whatever sources stand around them. Main statements:
`Exchanged.tick`, what one tick keeps, and `adjacent_scripts_commute`, for any number of ticks.
-/

namespace ClusterSim

/-! ### A placement apart from numbers -/

namespace Cluster

/-- The cluster with the numbers of the pending pods struck out. -/
def unnumbered (cluster : Cluster) : Cluster := { cluster with queue := cluster.queue.unnumbered }

theorem unnumbered_eq_iff {cluster other : Cluster} :
    cluster.unnumbered = other.unnumbered ↔
      cluster.nodes = other.nodes ∧ cluster.queue.unnumbered = other.queue.unnumbered ∧
        cluster.strategy = other.strategy := by
  rw [unnumbered, unnumbered, mk.injEq]

theorem bind_unnumbered (cluster : Cluster) (now : Instant) (pod : Pod) (name : NodeName) :
    cluster.unnumbered.bind now pod name = (cluster.bind now pod name).map unnumbered := by
  have hnodes : cluster.unnumbered.nodes.get? name = cluster.nodes.get? name := rfl
  unfold bind
  rw [hnodes]
  cases cluster.nodes.get? name with
  | none => rfl
  | some node =>
    simp only
    cases node.bind now pod <;> rfl

theorem place_unnumbered (cluster : Cluster) (now : Instant) (snapshots : List NodeSnapshot) :
    (cluster.unnumbered.place now snapshots).1 = (cluster.place now snapshots).1.unnumbered ∧
      (cluster.unnumbered.place now snapshots).2.2 = (cluster.place now snapshots).2.2 := by
  have hpop : cluster.unnumbered.queue.pop = _ := cluster.queue.pop_unnumbered
  unfold place
  rw [hpop]
  cases cluster.queue.pop with
  | error error => exact ⟨rfl, rfl⟩
  | ok taken =>
    obtain ⟨entry, queue⟩ := taken
    have hchoice : cluster.unnumbered.strategy.schedule entry.unnumbered.pod snapshots =
        cluster.strategy.schedule entry.pod snapshots := rfl
    simp only [Except.map, hchoice]
    cases cluster.strategy.schedule entry.pod snapshots with
    | doesNotFit pod =>
      refine ⟨?_, rfl⟩
      show { cluster with queue := queue.unnumbered.placeBack entry.unnumbered } = _
      rw [PodQueue.placeBack_unnumbered]
      rfl
    | selected name score feasible =>
      have hbind : { cluster.unnumbered with queue := queue.unnumbered }.bind now
          entry.unnumbered.pod name = _ :=
        bind_unnumbered { cluster with queue } now entry.pod name
      simp only [hbind]
      cases { cluster with queue }.bind now entry.pod name with
      | ok bound => exact ⟨rfl, rfl⟩
      | error error => exact ⟨rfl, rfl⟩

end Cluster

/-! ### Submission -/

/-- The scripts have no priority in common. -/
def Script.Disjoint (first second : Script) : Prop :=
  ∀ pod ∈ first.batches.flatten, ∀ other ∈ second.batches.flatten, pod.priority ≠ other.priority

namespace Script

/-- What is left of the scripts has no priority in common either. -/
theorem Disjoint.rest {first second : Script} (h : first.Disjoint second) :
    first.take.2.Disjoint second.take.2 := by
  intro pod hpod other hother
  obtain ⟨batch, hbatch, hpod⟩ := List.mem_flatten.1 hpod
  obtain ⟨later, hlater, hother⟩ := List.mem_flatten.1 hother
  exact h pod (List.mem_flatten.2 ⟨batch, List.mem_of_mem_drop hbatch, hpod⟩) other
    (List.mem_flatten.2 ⟨later, List.mem_of_mem_drop hlater, hother⟩)

theorem mem_flatten_of_mem_take {script : Script} {pod : Pod} (h : pod ∈ script.take.1) :
    pod ∈ script.batches.flatten := by
  obtain ⟨batches⟩ := script
  cases batches with
  | nil => cases h
  | cons batch rest => exact List.mem_flatten.2 ⟨batch, List.mem_cons_self, h⟩

end Script

/-- The sources are the same, but for adjacent scripts in the opposite order that have no priority
in common. -/
inductive Exchanged : List Workload → List Workload → Prop
  | nil : Exchanged [] []
  | cons (source : Workload) {first second : List Workload} (rest : Exchanged first second) :
      Exchanged (source :: first) (source :: second)
  | swap {script other : Script} {first second : List Workload} (hdisjoint : script.Disjoint other)
      (rest : Exchanged first second) :
      Exchanged (.script script :: .script other :: first) (.script other :: .script script :: second)

namespace Exchanged

theorem refl (sources : List Workload) : Exchanged sources sources := by
  induction sources with
  | nil => exact .nil
  | cons source rest ih => exact .cons source ih

theorem of_adjacent {script other : Script} (hdisjoint : script.Disjoint other)
    (before after : List Workload) :
    Exchanged (before ++ .script script :: .script other :: after)
      (before ++ .script other :: .script script :: after) := by
  induction before with
  | nil => exact .swap hdisjoint (.refl after)
  | cons source rest ih => exact .cons source ih

end Exchanged

namespace Intake

/-- The intakes are the same, but for the order of the sources and the numbers of their pods. -/
structure Agrees (first second : Intake Workload) : Prop where
  sources : Exchanged first.sources second.sources
  supply_eq : first.supply = second.supply
  queue_eq : first.queue.unnumbered = second.queue.unnumbered
  submitted_eq : first.submitted = second.submitted
  failure_eq : first.failure = second.failure

end Intake

/-- Sources in exchanged order submit the same, in other numbers. -/
theorem Exchanged.collect {first second : List Workload} (h : Exchanged first second)
    (now : Instant) (snapshots : List NodeSnapshot) (supply : PodId.Supply)
    {queue other : PodQueue} (hqueue : queue.unnumbered = other.unnumbered) :
    (Intake.collect now snapshots supply queue first).Agrees
      (Intake.collect now snapshots supply other second) := by
  induction h generalizing supply queue other with
  | nil => exact ⟨.nil, rfl, hqueue, rfl, rfl⟩
  | @cons source first second rest ih =>
    cases hanswer : (Submitter.submit source supply now snapshots).answer with
    | error error =>
      rw [Intake.collect, hanswer, Intake.collect, hanswer]
      exact ⟨.cons _ rest, rfl, hqueue, rfl, rfl⟩
    | ok pods =>
      rw [Intake.collect, hanswer, Intake.collect, hanswer]
      have later := ih (Submitter.submit source supply now snapshots).supply
        (PodQueue.pushAll_congr hqueue (pods.map (Pod.stamp now)))
      refine ⟨.cons _ later.sources, later.supply_eq, later.queue_eq, ?_, later.failure_eq⟩
      have hsubmitted := later.submitted_eq
      simp only [Intake.submitted, List.flatMap_cons, List.length_append] at hsubmitted ⊢
      rw [hsubmitted]
  | @swap script last first second hdisjoint rest ih =>
    -- both scripts answer, whatever the views are and without taking an identity
    have hpriority : ∀ pod ∈ script.take.1.map (Pod.stamp now),
        ∀ later ∈ last.take.1.map (Pod.stamp now), pod.priority ≠ later.priority := by
      intro pod hpod later hlater
      obtain ⟨submitted, hsubmitted, rfl⟩ := List.mem_map.1 hpod
      obtain ⟨following, hfollowing, rfl⟩ := List.mem_map.1 hlater
      exact hdisjoint submitted (Script.mem_flatten_of_mem_take hsubmitted) following
        (Script.mem_flatten_of_mem_take hfollowing)
    have hswapped : ((queue.pushAll (script.take.1.map (Pod.stamp now))).pushAll
        (last.take.1.map (Pod.stamp now))).unnumbered =
        ((other.pushAll (last.take.1.map (Pod.stamp now))).pushAll
          (script.take.1.map (Pod.stamp now))).unnumbered := by
      rw [PodQueue.pushAll_comm queue hpriority]
      exact PodQueue.pushAll_congr (PodQueue.pushAll_congr hqueue _) _
    have later := ih supply hswapped
    refine ⟨.swap hdisjoint.rest later.sources, later.supply_eq, later.queue_eq, ?_,
      later.failure_eq⟩
    show (_ ++ (_ ++ List.flatMap _ _)).length = (_ ++ (_ ++ List.flatMap _ _)).length
    rw [List.length_append, List.length_append, List.length_append, List.length_append,
      Nat.add_left_comm]
    exact congrArg (_ + ·) (congrArg (_ + ·) later.submitted_eq)

/-! ### Ticks -/

namespace TickOutcome

/-- The outcomes are the same, but for the order of the sources and the numbers of the pods. -/
structure Agrees (first second : TickOutcome Workload) : Prop where
  intake : first.intake.Agrees second.intake
  result_eq : first.result = second.result
  cluster_eq : first.cluster.unnumbered = second.cluster.unnumbered

end TickOutcome

/-- What one tick keeps. -/
theorem Exchanged.tick {first second : List Workload} (h : Exchanged first second)
    {cluster other : Cluster} (hcluster : cluster.unnumbered = other.unnumbered) (number : UInt64)
    (now : Instant) (supply : PodId.Supply) :
    (cluster.tick number now supply first).Agrees (other.tick number now supply second) := by
  obtain ⟨hnodes, hqueue, hstrategy⟩ := Cluster.unnumbered_eq_iff.1 hcluster
  have hsnapshots : cluster.snapshots now = other.snapshots now := by
    rw [Cluster.snapshots, hnodes, Cluster.snapshots]
  have intake := h.collect now (cluster.snapshots now) supply hqueue
  rw [Cluster.tick, Cluster.tick, ← hsnapshots]
  generalize Intake.collect now (cluster.snapshots now) supply cluster.queue first = left
    at intake
  generalize Intake.collect now (cluster.snapshots now) supply other.queue second = right
    at intake
  have hfilled : Cluster.unnumbered { cluster with queue := left.queue } =
      Cluster.unnumbered { other with queue := right.queue } :=
    Cluster.unnumbered_eq_iff.2 ⟨hnodes, intake.queue_eq, hstrategy⟩
  have hfailure := intake.failure_eq
  cases hleft : left.failure with
  | some error =>
    rw [hleft] at hfailure
    rw [← hfailure]
    exact ⟨intake, rfl, hfilled⟩
  | none =>
    rw [hleft] at hfailure
    rw [← hfailure]
    obtain ⟨hcluster, hplacement⟩ := Cluster.place_unnumbered { cluster with queue := left.queue }
      now (cluster.snapshots now)
    obtain ⟨hother, hsame⟩ := Cluster.place_unnumbered { other with queue := right.queue }
      now (cluster.snapshots now)
    rw [hfilled] at hcluster hplacement
    have hplaced := hcluster.symm.trans hother
    refine ⟨intake, ?_, hplaced⟩
    have hsize := congrArg PodQueue.size (Cluster.unnumbered_eq_iff.1 hplaced).2.1
    rw [PodQueue.size_unnumbered, PodQueue.size_unnumbered] at hsize
    simp only [← hplacement, hsame, intake.submitted_eq, hsize]

/-! ### Any number of ticks -/

/-- Ticks one after the other, each with its number and at its instant, on what the one before it
has left. -/
def Cluster.ticks {σ : Type} [Submitter σ] (cluster : Cluster) (supply : PodId.Supply)
    (sources : List σ) : List (UInt64 × Instant) → List (TickOutcome σ)
  | [] => []
  | (number, now) :: rest =>
    let outcome := cluster.tick number now supply sources
    outcome :: outcome.cluster.ticks outcome.intake.supply outcome.intake.sources rest

theorem Exchanged.ticks {first second : List Workload} (h : Exchanged first second)
    {cluster other : Cluster} (hcluster : cluster.unnumbered = other.unnumbered)
    (supply : PodId.Supply) (schedule : List (UInt64 × Instant)) :
    List.Forall₂ TickOutcome.Agrees (cluster.ticks supply first schedule)
      (other.ticks supply second schedule) := by
  induction schedule generalizing first second cluster other supply with
  | nil => exact .nil
  | cons due rest ih =>
    have agrees := h.tick hcluster due.1 due.2 supply
    refine .cons agrees ?_
    rw [agrees.intake.supply_eq]
    exact ih agrees.intake.sources agrees.cluster_eq _

/-- What is seen of a tick apart from the numbers of the pods: its result, the nodes, and the
pending pods in the order in which they leave. -/
def TickOutcome.seen {σ : Type} (outcome : TickOutcome σ) :
    Except TickError TickSummary × NameMap Node × List QueuedPod :=
  (outcome.result, outcome.cluster.nodes, outcome.cluster.queue.toList.map QueuedPod.unnumbered)

/-- Two adjacent scripts that have no priority in common may stand in either order among any
sources: whatever the cluster is, and whatever ticks there are and however many, each has the same
result and leaves the same nodes and the same pending pods in the same order, placed back as often.
Only their numbers may differ. -/
theorem adjacent_scripts_commute {script other : Script}
    (hdisjoint : ∀ pod ∈ script.batches.flatten, ∀ later ∈ other.batches.flatten,
      pod.priority ≠ later.priority)
    (cluster : Cluster) (supply : PodId.Supply) (before after : List Workload)
    (schedule : List (UInt64 × Instant)) :
    (cluster.ticks supply (before ++ .script script :: .script other :: after) schedule).map
        TickOutcome.seen =
      (cluster.ticks supply (before ++ .script other :: .script script :: after) schedule).map
        TickOutcome.seen := by
  have h := (Exchanged.of_adjacent hdisjoint before after).ticks (rfl : cluster.unnumbered = _)
    supply schedule
  rw [← List.forall₂_eq_eq_eq, List.forall₂_map_left_iff, List.forall₂_map_right_iff]
  refine h.imp fun first second agrees => ?_
  obtain ⟨hnodes, hqueue, -⟩ := Cluster.unnumbered_eq_iff.1 agrees.cluster_eq
  have hlist := congrArg PodQueue.toList hqueue
  rw [PodQueue.toList_unnumbered, PodQueue.toList_unnumbered] at hlist
  rw [TickOutcome.seen, TickOutcome.seen, agrees.result_eq, hnodes, hlist]

/-- Two scripts before a source that fails in the second tick: a pod that fits nowhere goes back
twice, another one is bound in between, and the pods of the two scripts have other numbers. -/
theorem adjacent_scripts_commute_two_tiers :
    let big : Pod := .new ⟨7⟩ "big" (.ofList [("cpu", 1001)]) 5
    let web : Pod := .new ⟨8⟩ "web" (.ofList [("cpu", 300)]) 1
    let job : Pod := .new ⟨9⟩ "job" (.ofList [("cpu", 200)]) 7
    let high : Script := ⟨[[big], [], [job]]⟩
    let low : Script := ⟨[[web, web]]⟩
    let cluster : Cluster := .new [.new "node-a" (.ofList [("cpu", 1000)])] .mostAllocated
    let faulty : Workload := .faulty ⟨"trace", "out of workload", 2, 0⟩
    let schedule : List (UInt64 × Instant) := [(1, .epoch), (2, .epoch), (3, .latest), (4, .latest)]
    let first := cluster.ticks .fresh [.script high, .script low, faulty] schedule
    let second := cluster.ticks .fresh [.script low, .script high, faulty] schedule
    first.map TickOutcome.seen = second.map TickOutcome.seen ∧
    first.map (fun outcome => outcome.cluster.queue.toList.map (·.arrival)) =
      [[0, 1, 2], [0, 1, 2], [0, 1, 2], [0, 1, 2]] ∧
    second.map (fun outcome => outcome.cluster.queue.toList.map (·.arrival)) =
      [[2, 0, 1], [2, 0, 1], [2, 0, 1], [2, 0, 1]] := by
  intro big web job high low cluster faulty schedule first second
  have hdisjoint : ∀ pod ∈ high.batches.flatten, ∀ later ∈ low.batches.flatten,
      pod.priority ≠ later.priority := by decide
  have hseen : first.map TickOutcome.seen = second.map TickOutcome.seen :=
    adjacent_scripts_commute hdisjoint cluster .fresh [] [faulty] schedule
  exact ⟨hseen, by decide +kernel, by decide +kernel⟩

end ClusterSim
