import ClusterSim.Proofs.Tick.Atomicity
import ClusterSim.Proofs.Tick.Counting
import ClusterSim.Workload

/-!
# A tick on the list of pending pods

What a tick does, said on plain data: the pods that are submitted are inserted into the list of
pending pods one by one, and then the first pod of the list joins the best node of those it fits, or
goes back if it fits none. Main statement: `tick_places_first_of_list`.
-/

namespace ClusterSim

namespace Cluster

/-- The node under a name is the best one for a pod: the pod fits there, and every other node where
it fits has a lower score, or the same score and a greater name. -/
structure IsBest (cluster : Cluster) (now : Instant) (pod : Pod) (name : NodeName)
    (node : Node) : Prop where
  get?_eq : cluster.nodes.get? name = some node
  fits : node.fits pod
  best : ∀ other found, cluster.nodes.get? other = some found → found.fits pod → other ≠ name →
    cluster.strategy.score pod (found.snapshot now) <
        cluster.strategy.score pod (node.snapshot now) ∨
      cluster.strategy.score pod (found.snapshot now) =
        cluster.strategy.score pod (node.snapshot now) ∧ name < other

/-- A pod has joined the node under a name: it stands there behind all others, its demand has been
added, and the other nodes are as they were. -/
structure Joined (cluster after : Cluster) (now : Instant) (pod : Pod) (name : NodeName)
    (node : Node) : Prop where
  names_eq : after.nodes.names = cluster.nodes.names
  of_ne : ∀ other ≠ name, after.nodes.get? other = cluster.nodes.get? other
  exists_allocated : ∃ allocated,
    after.nodes.get? name =
        some { node with allocated, pods := node.pods ++ [pod.placedOn name now] } ∧
      node.allocated.add? pod.demand = some allocated ∧
      ∀ d, allocated.amount d = node.allocated.amount d + pod.demand.amount d

/-- There is only one best node. -/
theorem IsBest.unique {cluster : Cluster} {now : Instant} {pod : Pod} {name other : NodeName}
    {node found : Node} (h : cluster.IsBest now pod name node)
    (hother : cluster.IsBest now pod other found) : name = other := by
  by_contra hne
  have hforth := h.best other found hother.get?_eq hother.fits (Ne.symm hne)
  have hback := hother.best name node h.get?_eq h.fits hne
  -- neither score is lower, so they are equal and each name would be the smaller one
  obtain ⟨-, hname⟩ := hforth.resolve_left (by omega)
  obtain ⟨-, hsmaller⟩ := hback.resolve_left (by omega)
  exact String.lt_asymm hname hsmaller

/-- Where every node is kept under its own name, the node that is chosen is the best one. -/
theorem Keyed.isBest {cluster : Cluster} (h : cluster.Keyed) {now : Instant} {pod : Pod}
    {name : NodeName} {score feasible : Nat} {node : Node}
    (hchoice : cluster.strategy.schedule pod (cluster.snapshots now) =
      .selected name score feasible)
    (hnode : cluster.nodes.get? name = some node) : cluster.IsBest now pod name node := by
  obtain ⟨snapshot, hmem, hfits, hname, hscore⟩ :=
    Strategy.exists_of_schedule_eq_selected hchoice
  obtain ⟨key, chosen, hget, rfl⟩ := mem_snapshots_iff.1 hmem
  have hkey : key = name := (h key chosen hget).symm.trans hname
  rw [hkey, hnode] at hget
  obtain rfl := Option.some.inj hget
  refine ⟨hnode, hfits, fun other found hother hotherfits hne => ?_⟩
  have hview : found.snapshot now ∈ cluster.snapshots now :=
    mem_snapshots_iff.2 ⟨other, found, hother, rfl⟩
  have hworse := Strategy.not_isBetter_of_schedule_eq_selected hchoice hview hotherfits
  have hfound : (found.snapshot now).name = other := h other found hother
  rw [Strategy.not_isBetter_iff, hfound, ← hscore] at hworse
  rcases hworse with hlt | ⟨heq, hle⟩
  · exact .inl hlt
  · refine .inr ⟨heq, String.not_le.1 fun hback => ?_⟩
    exact hne (String.le_antisymm hback hle)

/-- A bind adds the pod to one node only. -/
theorem joined_of_bind {cluster : Cluster} {now : Instant} {pod : Pod} {name : NodeName}
    {node bound : Node} (hnode : cluster.nodes.get? name = some node) (hname : node.name = name)
    (hbind : node.bind now pod = .ok bound) (queue : PodQueue) :
    cluster.Joined { cluster with queue, nodes := cluster.nodes.insert name bound } now pod name
      node := by
  subst hname
  obtain ⟨-, allocated, hadd, rfl⟩ := Node.of_bind_eq_ok hbind
  refine ⟨NameMap.names_insert_of_get? hnode _, fun other hne => ?_, allocated, ?_, hadd, ?_⟩
  · show (cluster.nodes.insert node.name _).get? other = _
    rw [NameMap.get?_insert, if_neg hne]
  · show (cluster.nodes.insert node.name _).get? node.name = _
    rw [NameMap.get?_insert, if_pos rfl]
  · exact Resources.amount_of_add? hadd

/-- The first pod of a list that fits a node joins the best one. -/
theorem Placed.joined {cluster after : Cluster} {now : Instant} {entry : Option QueuedPod}
    {placement : Except TickError Placement} (hplaced : Placed cluster now after entry placement)
    (hkeyed : cluster.Keyed) (htidy : PodQueue.Tidy cluster.queue.tiers) {first : QueuedPod}
    {rest : List QueuedPod} (hlist : cluster.queue.toList = first :: rest)
    (hfits : ¬ cluster.Rejects first.pod) :
    ∃ name node, cluster.IsBest now first.pod name node ∧
      placement = .ok (.bound first.pod.id name) ∧
      cluster.Joined after now first.pod name node := by
  cases hplaced with
  | idle hpop => cases (htidy.toList_eq_nil_of_pop hpop).symm.trans hlist
  | requeued hpop hchoice =>
    obtain ⟨rfl, -⟩ := PodQueue.of_pop_of_cons hlist hpop
    exact absurd (schedule_eq_doesNotFit_iff.1 hchoice).2 hfits
  | refused hpop hchoice hbind => exact absurd hbind (hkeyed.bind_ne_error hchoice _ _)
  | @bound tried queue name _ _ node bound hpop hchoice hnode hbind =>
    obtain ⟨rfl, -⟩ := PodQueue.of_pop_of_cons hlist hpop
    exact ⟨name, node, hkeyed.isBest hchoice hnode, rfl,
      joined_of_bind hnode (hkeyed name node hnode) hbind queue⟩

/-- Only a bind changes anything apart from the queue. -/
theorem Placed.strategy_eq {cluster after : Cluster} {now : Instant} {entry : Option QueuedPod}
    {placement : Except TickError Placement}
    (hplaced : Placed cluster now after entry placement) : after.strategy = cluster.strategy := by
  cases hplaced <;> rfl

end Cluster

open Submitter

/-- In every cluster that ticks have made of a new one, a tick whose sources all answer does this,
as long as fewer than `UInt64.size` pods are submitted in all. The pods that are returned, with the
clock as their instant, are inserted one by one into the list of pending pods. If the list is then
empty, the tick is idle. If its first pod fits no node, the pod goes back behind those of its
priority, with one more count, which is also reported. Otherwise the pod joins the best node that it
fits, of which there is only one, and the rest of the list stays. -/
theorem tick_places_first_of_list {nodes : List Node} {strategy : Strategy}
    {records : List TickRecord} {cluster : Cluster}
    (h : Course (.new nodes strategy) records cluster) {σ : Type} [Submitter σ]
    (number : UInt64) (now : Instant) (supply : PodId.Supply) (sources : List σ)
    (hall : AllAnswer now (cluster.snapshots now) supply sources)
    (hroom : (submissions records).length +
      (returned now (cluster.snapshots now) supply sources).length < UInt64.size) :
    let pods := returned now (cluster.snapshots now) supply sources
    let pending := ((PendingList.mk cluster.queue.toList (submissions records).length).pushAll
      (pods.map (Pod.stamp now))).entries
    let outcome := cluster.tick number now supply sources
    ∃ placement,
      outcome.result = .ok
        { tick := number
          clock := now
          submitted := pods.length
          placement
          pending := outcome.cluster.queue.toList.length } ∧
      outcome.cluster.strategy = cluster.strategy ∧
      (pending = [] → placement = .idle ∧ outcome.cluster.queue.toList = [] ∧
        outcome.cluster.nodes = cluster.nodes) ∧
      ∀ first rest, pending = first :: rest →
        (cluster.Rejects first.pod → ∃ requeues : UInt32,
          requeues.toNat = min (first.requeues.toNat + 1) (UInt32.size - 1) ∧
          placement = .requeued first.pod.id requeues ∧
          outcome.cluster.queue.toList = PendingList.insertEntry { first with requeues } rest ∧
          outcome.cluster.nodes = cluster.nodes) ∧
        (¬ cluster.Rejects first.pod → ∃ name node,
          cluster.IsBest now first.pod name node ∧
          (∀ other found, cluster.IsBest now first.pod other found → other = name) ∧
          placement = .bound first.pod.id name ∧
          outcome.cluster.queue.toList = rest ∧
          cluster.Joined outcome.cluster now first.pod name node) := by
  intro pods pending outcome
  have hkeyed : (cluster.filled now supply sources).Keyed := h.keyed (Cluster.keyed_new _ _)
  have hlength : (submissions records).length + (pods.map (Pod.stamp now)).length <
      UInt64.size := by
    rw [List.length_map]
    exact hroom
  obtain ⟨hcounted, hpending⟩ := (h.counted (by omega)).pushAll _ hlength
  have htidy := hcounted.tidy
  rcases Cluster.tick_cases (rfl : outcome = _) with ⟨error, hfails, -⟩ | ⟨-, result, hplaced, hok⟩
  · exact absurd hfails (Cluster.allAnswer_iff.1 hall error)
  obtain ⟨placement, rfl⟩ := hkeyed.placement_ok hplaced
  have hafter := hplaced.counted hcounted hlength
  refine ⟨placement, ?_, hplaced.strategy_eq, fun hnil => ?_, fun first rest hcons => ?_⟩
  · rw [hok, ← hafter.size_eq]
    rfl
  · obtain ⟨-, hidle, hsame⟩ := hplaced.of_nil (hpending.trans hnil)
    rw [hsame]
    exact ⟨Except.ok.inj hidle, hpending.trans hnil, rfl⟩
  · have hlist := hpending.trans hcons
    obtain ⟨-, ⟨hrejects, hnodes, hrequeued, hqueue⟩ | ⟨hfits, hqueue⟩⟩ :=
      hplaced.of_cons htidy hlist
    · refine ⟨fun _ => ⟨(first.requeuedBy 1).requeues, ?_, ?_, hqueue, hnodes⟩,
        fun hfits => absurd hrejects hfits⟩
      · exact first.toNat_requeues_requeuedBy 1
      · rw [Except.ok.inj hrequeued, QueuedPod.requeues_requeuedBy_one]
    · refine ⟨fun hrejects => absurd hrejects hfits, fun _ => ?_⟩
      obtain ⟨name, node, hbest, hbound, hjoined⟩ := hplaced.joined hkeyed htidy hlist hfits
      -- the sources have left the nodes as they were
      have hbefore : cluster.IsBest now first.pod name node :=
        ⟨hbest.get?_eq, hbest.fits, hbest.best⟩
      exact ⟨name, node, hbefore, fun other found hother => hother.unique hbefore,
        Except.ok.inj hbound, hqueue,
        ⟨hjoined.names_eq, hjoined.of_ne, hjoined.exists_allocated⟩⟩

/-- Three pods are pending when the second tick has asked its sources, one of them since the first
tick because it fits no node. The one of the highest priority fits both nodes equally well, and
joins the one with the smaller name. -/
theorem tick_places_first_of_list_equal_nodes :
    let capacity : Resources := .ofList [("cpu", 1000)]
    let big : Pod := .new ⟨7⟩ "big" (.ofList [("cpu", 2000)]) 0
    let web : Pod := .new ⟨8⟩ "web" (.ofList [("cpu", 300)]) 0
    let api : Pod := .new ⟨9⟩ "api" (.ofList [("cpu", 200)]) 5
    let origin : Cluster := .new [.new "node-b" capacity, .new "node-a" capacity] .leastAllocated
    let first := origin.record 1 .epoch .fresh [Script.mk [[big]]]
    let sources := [Script.mk [[web]], Script.mk [[api]]]
    let outcome := first.after.tick 2 .latest .fresh sources
    outcome.result = .ok ⟨2, .latest, 2, .bound ⟨9⟩ "node-a", 2⟩ ∧
    outcome.cluster.queue.toList = [⟨big.stamp .epoch, 0, 1⟩, ⟨web.stamp .latest, 1, 0⟩] ∧
    first.after.IsBest .latest (api.stamp .latest) "node-a" (.new "node-a" capacity) ∧
    first.after.Joined outcome.cluster .latest (api.stamp .latest) "node-a"
      (.new "node-a" capacity) := by
  intro capacity big web api origin first sources outcome
  have houtcome : first.after.tick 2 .latest .fresh sources = outcome := rfl
  have hcourse : Course origin [first] first.after :=
    Course.start.next_record 1 .epoch .fresh [Script.mk [[big]]]
  have hall : AllAnswer .latest (first.after.snapshots .latest) .fresh sources := by
    intro reply hmem
    rcases List.mem_cons.1 hmem with rfl | hmem
    · exact ⟨[web], rfl⟩
    · rw [List.mem_singleton.1 hmem]
      exact ⟨[api], rfl⟩
  have hnode : first.after.nodes.get? "node-a" = some (.new "node-a" capacity) := by
    decide +kernel
  have hresult : outcome.result = .ok ⟨2, .latest, 2, .bound ⟨9⟩ "node-a", 2⟩ := by
    decide +kernel
  have hfits : ¬ first.after.Rejects (api.stamp .latest) :=
    fun hrejects => hrejects "node-a" _ hnode (by decide)
  obtain ⟨placement, hok, -, -, hplaced⟩ :=
    tick_places_first_of_list hcourse 2 .latest .fresh sources hall (by decide)
  obtain ⟨-, hbound⟩ := hplaced ⟨api.stamp .latest, 2, 0⟩
    [⟨big.stamp .epoch, 0, 1⟩, ⟨web.stamp .latest, 1, 0⟩] (by decide +kernel)
  obtain ⟨name, node, hbest, -, hplacement, hqueue, hjoined⟩ := hbound hfits
  have hname : name = "node-a" := by
    have hsummary := Except.ok.inj (hok.symm.trans hresult)
    rw [hplacement] at hsummary
    exact (Placement.bound.inj (congrArg TickSummary.placement hsummary)).2
  subst hname
  obtain rfl := Option.some.inj (hnode.symm.trans hbest.get?_eq)
  rw [houtcome] at hqueue hjoined
  exact ⟨hresult, hqueue, hbest, hjoined⟩

end ClusterSim
