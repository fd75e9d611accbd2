import ClusterSim.Proofs.Queue
import ClusterSim.Proofs.Tick.Step
import ClusterSim.Workload
import Mathlib.Control.Monad.Basic

/-!
# A tick that fails

A tick can fail before a pod is taken from the queue, when a source fails, and after it, when the
chosen name leads to no node or to one that refuses the pod, as it may where nodes are kept under
names that are not their own. Main statement: `failed_tick_is_atomic`, what each of these failures
leaves behind.
-/

namespace ClusterSim

namespace Cluster

/-! ### Placement -/

/-- Binding fails if there is no node under the name, or if that node refuses the pod. -/
theorem bind_eq_error_iff {cluster : Cluster} {now : Instant} {pod : Pod} {name : NodeName}
    {error : TickError} :
    cluster.bind now pod name = .error error ↔
      cluster.nodes.get? name = none ∧ error = .unknownNode name ∨
      ∃ node fault, cluster.nodes.get? name = some node ∧ node.bind now pod = .error fault ∧
        error = .bind fault := by
  unfold bind
  cases hnode : cluster.nodes.get? name with
  | none => simp [eq_comm]
  | some node => cases hbind : node.bind now pod <;> simp [hbind, eq_comm]

variable {cluster after : Cluster} {now : Instant} {entry : Option QueuedPod}

/-- A placement fails when a node has been chosen for the first pod, which is then lost. -/
theorem Placed.of_error {error : TickError} (h : Placed cluster now after entry (.error error)) :
    after.nodes = cluster.nodes ∧ ∃ tried name score feasible,
      cluster.queue.pop = .ok (tried, after.queue) ∧
      cluster.strategy.schedule tried.pod (cluster.snapshots now) =
        .selected name score feasible ∧
      cluster.bind now tried.pod name = .error error := by
  cases h with
  | @refused tried queue name score feasible _ hpop hchoice hbind =>
    -- whether a pod can be bound does not depend on the queue
    have hcause := bind_eq_error_iff.1 hbind
    have hfails : cluster.bind now tried.pod name = .error error := bind_eq_error_iff.2 hcause
    exact ⟨rfl, tried, name, score, feasible, hpop, hchoice, hfails⟩

/-- Where the chosen name leads to no node a placement fails for it. -/
theorem Placed.of_missing {placement : Except TickError Placement}
    (h : Placed cluster now after entry placement) {tried : QueuedPod} {queue : PodQueue}
    {name : NodeName} {score feasible : Nat} (hpop : cluster.queue.pop = .ok (tried, queue))
    (hchoice : cluster.strategy.schedule tried.pod (cluster.snapshots now) =
      .selected name score feasible)
    (hnode : cluster.nodes.get? name = none) : placement = .error (.unknownNode name) := by
  cases h with
  | idle hother => cases hpop.symm.trans hother
  | requeued hother hfits =>
    cases hpop.symm.trans hother
    cases hchoice.symm.trans hfits
  | bound hother hsame hsome =>
    cases hpop.symm.trans hother
    cases hchoice.symm.trans hsame
    cases hnode.symm.trans hsome
  | refused hother hsame hbind =>
    cases hpop.symm.trans hother
    cases hchoice.symm.trans hsame
    rcases bind_eq_error_iff.1 hbind with ⟨-, rfl⟩ | ⟨node, fault, hsome, -⟩
    · rfl
    · cases hnode.symm.trans hsome

/-! ### The whole tick -/

section Tick

variable {σ : Type} [Submitter σ] {number : UInt64} {supply : PodId.Supply} {sources : List σ}

open Submitter

theorem allAnswer_iff :
    AllAnswer now (cluster.snapshots now) supply sources ↔
      ∀ error, ¬ cluster.Fails now supply sources error := by
  refine ⟨fun h error ⟨reply, hmem, herror⟩ => ?_, fun h reply hmem => ?_⟩
  · obtain ⟨pods, hok⟩ := h reply hmem
    cases hok.symm.trans herror
  · cases hanswer : reply.answer with
    | ok pods => exact ⟨pods, rfl⟩
    | error error => exact absurd ⟨reply, hmem, hanswer⟩ (h error)

theorem intake_tick (cluster : Cluster) (number : UInt64) (now : Instant) (supply : PodId.Supply)
    (sources : List σ) :
    (cluster.tick number now supply sources).intake =
      Intake.collect now (cluster.snapshots now) supply cluster.queue sources := by
  simp only [tick]
  split <;> rfl

/-- A tick fails with the error of a source, or else with that of a placement. -/
theorem tick_error_cases {error : TickError}
    (h : (cluster.tick number now supply sources).result = .error error) :
    (∃ fault, error = .submitter fault ∧ cluster.Fails now supply sources fault ∧
      (cluster.tick number now supply sources).cluster = cluster.filled now supply sources ∧
      (cluster.tick number now supply sources).attempt = none) ∨
    AllAnswer now (cluster.snapshots now) supply sources ∧ ∃ entry,
      Placed (cluster.filled now supply sources) now
        (cluster.tick number now supply sources).cluster entry (.error error) := by
  rcases tick_cases (rfl : cluster.tick number now supply sources = _) with
    ⟨fault, hfails, hcluster, hattempt, hresult⟩ | ⟨hnone, placement, hplaced, hresult⟩
  · cases hresult.symm.trans h
    exact .inl ⟨fault, rfl, hfails, hcluster, hattempt⟩
  · cases placement with
    | ok placement => cases hresult.symm.trans h
    | error other =>
      cases hresult.symm.trans h
      exact .inr ⟨allAnswer_iff.2 hnone, _, hplaced⟩

theorem nodes_tick_of_error {error : TickError}
    (h : (cluster.tick number now supply sources).result = .error error) :
    (cluster.tick number now supply sources).cluster.nodes = cluster.nodes := by
  rcases tick_error_cases h with ⟨-, -, -, hcluster, -⟩ | ⟨-, entry, hplaced⟩
  · rw [hcluster, filled]
  · exact hplaced.of_error.1

/-- The error of a source is never that of a placement. -/
theorem fails_of_error {fault : SubmitError}
    (h : (cluster.tick number now supply sources).result = .error (.submitter fault)) :
    cluster.Fails now supply sources fault ∧
      (cluster.tick number now supply sources).cluster = cluster.filled now supply sources ∧
      (cluster.tick number now supply sources).attempt = none := by
  rcases tick_error_cases h with ⟨other, hfault, hfails⟩ | ⟨-, entry, hplaced⟩
  · cases hfault
    exact hfails
  · obtain ⟨-, tried, name, _, _, -, -, hbind⟩ := hplaced.of_error
    rcases bind_eq_error_iff.1 hbind with ⟨-, heq⟩ | ⟨node, refusal, -, -, heq⟩
    · cases heq
    · cases heq

theorem placed_of_error {error : TickError} (hother : ∀ fault, error ≠ .submitter fault)
    (h : (cluster.tick number now supply sources).result = .error error) :
    AllAnswer now (cluster.snapshots now) supply sources ∧ ∃ entry,
      Placed (cluster.filled now supply sources) now
        (cluster.tick number now supply sources).cluster entry (.error error) := by
  rcases tick_error_cases h with ⟨fault, rfl, -⟩ | hplaced
  · exact absurd rfl (hother fault)
  · exact hplaced

/-- A tick fails for want of a node exactly if the chosen name is not in the map. -/
theorem result_tick_eq_unknownNode_iff {name : NodeName} :
    (cluster.tick number now supply sources).result = .error (.unknownNode name) ↔
      AllAnswer now (cluster.snapshots now) supply sources ∧ ∃ entry queue score feasible,
        (cluster.filled now supply sources).queue.pop = .ok (entry, queue) ∧
        cluster.strategy.schedule entry.pod (cluster.snapshots now) =
          .selected name score feasible ∧
        cluster.nodes.get? name = none := by
  constructor
  · intro h
    obtain ⟨hall, tried, hplaced⟩ := placed_of_error (by simp) h
    obtain ⟨-, entry, chosen, score, feasible, hpop, hchoice, hbind⟩ := hplaced.of_error
    rcases bind_eq_error_iff.1 hbind with ⟨hnode, heq⟩ | ⟨node, refusal, -, -, heq⟩
    · cases heq
      exact ⟨hall, entry, _, score, feasible, hpop, hchoice, hnode⟩
    · cases heq
  · rintro ⟨hall, entry, queue, score, feasible, hpop, hchoice, hnode⟩
    rcases tick_cases (rfl : cluster.tick number now supply sources = _) with
      ⟨fault, hfails, -⟩ | ⟨-, placement, hplaced, hresult⟩
    · exact absurd hfails (allAnswer_iff.1 hall fault)
    · rw [hplaced.of_missing hpop hchoice hnode] at hresult
      exact hresult

/-- When no source fails all have been asked. -/
theorem made_of_allAnswer (number : UInt64)
    (h : AllAnswer now (cluster.snapshots now) supply sources) :
    (cluster.tick number now supply sources).intake.Made now supply cluster.queue sources
      (replies now (cluster.snapshots now) supply sources) [] := by
  have hmade := Intake.made_collect now (cluster.snapshots now) supply cluster.queue sources
  rwa [h.length_replies, List.take_length, List.drop_length, ← intake_tick cluster number] at hmade

/-- When a source has failed those behind it are left as they were. -/
theorem made_of_failing (number : UInt64) {asked rest : List σ} {failing : σ} {last : Reply σ}
    (hsources : sources = asked ++ failing :: rest)
    (hasked : AllAnswer now (cluster.snapshots now) supply asked)
    (hreplies : replies now (cluster.snapshots now) supply sources =
      replies now (cluster.snapshots now) supply asked ++ [last]) :
    (cluster.tick number now supply sources).intake.Made now supply cluster.queue
      (asked ++ [failing]) (replies now (cluster.snapshots now) supply asked ++ [last]) rest := by
  have hmade := Intake.made_collect now (cluster.snapshots now) supply cluster.queue sources
  have hlength : (asked ++ [failing]).length =
      (replies now (cluster.snapshots now) supply asked ++ [last]).length := by
    rw [List.length_append, List.length_append, hasked.length_replies]
    rfl
  have hsplit : sources = (asked ++ [failing]) ++ rest := by simp [hsources]
  rw [hreplies, ← hlength] at hmade
  rwa [hsplit, List.take_left, List.drop_left, ← hsplit, ← intake_tick cluster number] at hmade

end Tick

end Cluster

open Submitter

/-- Whatever nodes a cluster has and under whatever names, whatever is pending, and whatever sources
are asked: a tick that fails changes no node. If a source fails, those before it have answered and
their pods are in the queue, stamped and in order, nothing has been taken from it, and the sources
behind it have not been asked. If it fails otherwise, all sources have answered, all their pods are
in the queue, and exactly the first pod has been taken from it. And it fails for want of a node
exactly if all sources answer and the name that is chosen for the first pod is not in the map. -/
theorem failed_tick_is_atomic {σ : Type} [Submitter σ] (cluster : Cluster) (number : UInt64)
    (now : Instant) (supply : PodId.Supply) (sources : List σ) :
    let views := cluster.snapshots now
    let outcome := cluster.tick number now supply sources
    let filled := cluster.filled now supply sources
    (∀ error, outcome.result = .error error → outcome.cluster.nodes = cluster.nodes) ∧
    (∀ fault, outcome.result = .error (.submitter fault) →
      ∃ asked failing rest last, sources = asked ++ failing :: rest ∧
        AllAnswer now views supply asked ∧
        last = submit failing (supplyAfter supply (replies now views supply asked)) now views ∧
        last.answer = .error fault ∧
        outcome.cluster = cluster.filled now supply asked ∧ outcome.attempt = none ∧
        outcome.intake.Made now supply cluster.queue (asked ++ [failing])
          (replies now views supply asked ++ [last]) rest) ∧
    (∀ error, (∀ fault, error ≠ .submitter fault) → outcome.result = .error error →
      AllAnswer now views supply sources ∧
      (replies now views supply sources).length = sources.length ∧
      outcome.intake.Made now supply cluster.queue sources (replies now views supply sources) [] ∧
      ∃ entry, filled.queue.pop = .ok (entry, outcome.cluster.queue) ∧
        filled.queue.toList = entry :: outcome.cluster.queue.toList) ∧
    ∀ name, outcome.result = .error (.unknownNode name) ↔
      AllAnswer now views supply sources ∧ ∃ entry queue score feasible,
        filled.queue.pop = .ok (entry, queue) ∧
        cluster.strategy.schedule entry.pod views = .selected name score feasible ∧
        cluster.nodes.get? name = none := by
  intro views outcome filled
  refine ⟨fun error => Cluster.nodes_tick_of_error, fun fault herror => ?_,
    fun error hother herror => ?_, fun name => Cluster.result_tick_eq_unknownNode_iff⟩
  · obtain ⟨hfails, hcluster, hattempt⟩ := Cluster.fails_of_error herror
    obtain ⟨asked, failing, rest, last, hsources, hasked, hlast, hanswer, hreplies⟩ :=
      exists_failing hfails
    have hmade := Cluster.made_of_failing number hsources hasked hreplies
    refine ⟨asked, failing, rest, last, hsources, hasked, hlast, hanswer, ?_, hattempt, hmade⟩
    rw [hcluster, Cluster.filled, Cluster.filled, returned_of_failing hreplies hanswer]
  · obtain ⟨hall, tried, hplaced⟩ := Cluster.placed_of_error hother herror
    obtain ⟨-, entry, _, _, _, hpop, -⟩ := hplaced.of_error
    exact ⟨hall, hall.length_replies, Cluster.made_of_allAnswer number hall, entry, hpop,
      PodQueue.toList_of_pop hpop⟩

/-- Two nodes under the names of each other: the one that the first pod fits is chosen, and the one
under its name refuses the pod. A node under a strange name: the one that is chosen is not there.
And a source that fails before another one is asked. -/
theorem failed_tick_is_atomic_swapped_names :
    let web : Pod := .new ⟨7⟩ "web" (.ofList [("cpu", 300)]) 0
    let api : Pod := .new ⟨8⟩ "api" (.ofList [("cpu", 200)]) 5
    let small : Node := .new "node-a" (.ofList [("cpu", 100)])
    let large : Node := .new "node-b" (.ofList [("cpu", 1000)])
    let swapped : Cluster :=
      ⟨.ofList [("node-a", large), ("node-b", small)], .empty, .mostAllocated⟩
    let strange : Cluster := ⟨.ofList [("node-c", large)], .empty, .mostAllocated⟩
    let sources : List Workload := [.script ⟨[[web]]⟩, .script ⟨[[api]]⟩]
    let failing : List Workload :=
      [.script ⟨[[web]]⟩, .faulty ⟨"trace", "out of workload", 1, 0⟩, .script ⟨[[api]]⟩]
    let refused := swapped.tick 1 .epoch .fresh sources
    let missed := strange.tick 1 .epoch .fresh sources
    let stopped := swapped.tick 1 .epoch .fresh failing
    refused.result =
      .error (.bind (.insufficientCapacity "node-a" "api" api.demand small.available)) ∧
    refused.cluster.nodes = swapped.nodes ∧
    refused.cluster.queue.toList = [⟨web.stamp .epoch, 0, 0⟩] ∧
    missed.result = .error (.unknownNode "node-b") ∧
    stopped.result = .error (.submitter ⟨"trace", "out of workload"⟩) ∧
    stopped.cluster.nodes = swapped.nodes ∧ stopped.cluster.queue.toList.length = 1 := by
  intro web api small large swapped strange sources failing refused missed stopped
  have hrefused : refused.result =
      .error (.bind (.insufficientCapacity "node-a" "api" api.demand small.available)) := by
    decide +kernel
  have hstopped : stopped.result = .error (.submitter ⟨"trace", "out of workload"⟩) := rfl
  have hanswer : Submitter.AllAnswer .epoch (strange.snapshots .epoch) .fresh sources := by
    intro reply hmem
    rcases List.mem_cons.1 hmem with rfl | hmem
    · exact ⟨[web], rfl⟩
    · rw [List.mem_singleton.1 hmem]
      exact ⟨[api], rfl⟩
  have hchoice : strange.strategy.schedule (api.stamp .epoch) (strange.snapshots .epoch) =
      .selected "node-b" 200 1 := by decide
  obtain ⟨hrefusedNodes, -, htaken, -⟩ :=
    failed_tick_is_atomic swapped 1 .epoch .fresh sources
  obtain ⟨-, -, -, hmissed⟩ := failed_tick_is_atomic strange 1 .epoch .fresh sources
  obtain ⟨hstoppedNodes, -⟩ := failed_tick_is_atomic swapped 1 .epoch .fresh failing
  obtain ⟨-, -, -, entry, -, hqueue⟩ := htaken _ (by simp) hrefused
  refine ⟨hrefused, hrefusedNodes _ hrefused, (List.cons.inj hqueue).2.symm, ?_, hstopped,
    hstoppedNodes _ hstopped, by decide +kernel⟩
  exact (hmissed "node-b").2
    ⟨hanswer, ⟨api.stamp .epoch, 1, 0⟩, _, 200, 1, rfl, hchoice, by decide⟩

end ClusterSim
