import ClusterSim.Proofs.Choice
import ClusterSim.Proofs.Node.Ledger
import ClusterSim.Proofs.Tick.Submission

/-!
# What a tick can do

A tick puts the submitted pods into the queue and then, if no source failed, places one pod. Main
statements: `placed_place` lists the four ways in which a placement can go, and `tick_cases` says
how a tick is made up. Where every node is kept under its own name a placement is never refused
(`Keyed.exists_bind`), since the views that the choice was made on are still accurate.
-/

namespace ClusterSim.Cluster

/-- The views are those of the nodes. -/
theorem mem_snapshots_iff {cluster : Cluster} {now : Instant} {view : NodeSnapshot} :
    view ∈ cluster.snapshots now ↔
      ∃ name node, cluster.nodes.get? name = some node ∧ node.snapshot now = view := by
  rw [snapshots, List.mem_map]
  constructor
  · rintro ⟨node, hnode, hview⟩
    obtain ⟨name, hget⟩ := NameMap.mem_values_iff.1 hnode
    exact ⟨name, node, hget, hview⟩
  · rintro ⟨name, node, hget, hview⟩
    exact ⟨node, NameMap.mem_values_iff.2 ⟨name, hget⟩, hview⟩

/-! ### Placement -/

/-- What placing one pod can come to: the cluster afterwards, the entry that was tried, and the
outcome. -/
inductive Placed (cluster : Cluster) (now : Instant) :
    Cluster → Option QueuedPod → Except TickError Placement → Prop
  /-- No pod is pending. -/
  | idle (hpop : cluster.queue.pop = .error .empty) : Placed cluster now cluster none (.ok .idle)
  /-- The first pod fits nowhere and goes back. -/
  | requeued {entry : QueuedPod} {queue : PodQueue}
      (hpop : cluster.queue.pop = .ok (entry, queue))
      (hchoice : cluster.strategy.schedule entry.pod (cluster.snapshots now) =
        .doesNotFit entry.pod.id) :
      Placed cluster now { cluster with queue := queue.placeBack entry } (some entry)
        (.ok (.requeued entry.pod.id (Counter.next32 entry.requeues)))
  /-- The first pod is bound to the chosen node. -/
  | bound {entry : QueuedPod} {queue : PodQueue} {name : NodeName} {score feasible : Nat}
      {node after : Node} (hpop : cluster.queue.pop = .ok (entry, queue))
      (hchoice : cluster.strategy.schedule entry.pod (cluster.snapshots now) =
        .selected name score feasible)
      (hnode : cluster.nodes.get? name = some node)
      (hbind : node.bind now entry.pod = .ok after) :
      Placed cluster now { cluster with queue, nodes := cluster.nodes.insert name after }
        (some entry) (.ok (.bound entry.pod.id name))
  /-- The first pod cannot be bound to the chosen node and is lost. -/
  | refused {entry : QueuedPod} {queue : PodQueue} {name : NodeName} {score feasible : Nat}
      {error : TickError} (hpop : cluster.queue.pop = .ok (entry, queue))
      (hchoice : cluster.strategy.schedule entry.pod (cluster.snapshots now) =
        .selected name score feasible)
      (hbind : { cluster with queue }.bind now entry.pod name = .error error) :
      Placed cluster now { cluster with queue } (some entry) (.error error)

theorem of_bind_eq_ok {cluster after : Cluster} {now : Instant} {pod : Pod} {name : NodeName}
    (h : cluster.bind now pod name = .ok after) :
    ∃ node bound, cluster.nodes.get? name = some node ∧ node.bind now pod = .ok bound ∧
      after = { cluster with nodes := cluster.nodes.insert name bound } := by
  unfold bind at h
  split at h
  · cases h
  · rename_i node hnode
    split at h
    · rename_i bound hbind
      exact ⟨node, bound, hnode, hbind, (Except.ok.inj h).symm⟩
    · cases h

theorem placed_place (cluster : Cluster) (now : Instant) :
    Placed cluster now (cluster.place now (cluster.snapshots now)).1
      ((cluster.place now (cluster.snapshots now)).2.1.map (·.entry))
      (cluster.place now (cluster.snapshots now)).2.2 := by
  unfold place
  split
  · rename_i hpop
    exact .idle hpop
  · rename_i entry queue hpop
    cases hchoice : cluster.strategy.schedule entry.pod (cluster.snapshots now) with
    | doesNotFit pod =>
      obtain ⟨rfl, -⟩ := Strategy.schedule_eq_doesNotFit_iff.1 hchoice
      exact .requeued hpop hchoice
    | selected name score feasible =>
      cases hbind : { cluster with queue }.bind now entry.pod name with
      | ok after =>
        obtain ⟨node, bound, hnode, hbound, rfl⟩ := of_bind_eq_ok hbind
        simp only [hbind]
        exact .bound hpop hchoice hnode hbound
      | error error =>
        simp only [hbind]
        exact .refused hpop hchoice hbind

/-! ### The whole tick -/

section Tick

variable {σ : Type} [Submitter σ]

/-- The cluster when the sources have been asked: what they returned is in the queue. -/
def filled (cluster : Cluster) (now : Instant) (supply : PodId.Supply) (sources : List σ) :
    Cluster :=
  { cluster with
    queue := cluster.queue.pushAll
      ((Submitter.returned now (cluster.snapshots now) supply sources).map (Pod.stamp now)) }

theorem filled_eq (cluster : Cluster) (now : Instant) (supply : PodId.Supply) (sources : List σ) :
    { cluster with
      queue := (Intake.collect now (cluster.snapshots now) supply cluster.queue sources).queue } =
      cluster.filled now supply sources := by
  rw [Intake.queue_collect]
  rfl

/-- A source that is asked in a tick fails with an error. -/
def Fails (cluster : Cluster) (now : Instant) (supply : PodId.Supply) (sources : List σ)
    (error : SubmitError) : Prop :=
  ∃ reply ∈ Submitter.replies now (cluster.snapshots now) supply sources,
    reply.answer = .error error

theorem failure_collect_iff {cluster : Cluster} {now : Instant} {supply : PodId.Supply}
    {sources : List σ} {error : SubmitError} :
    (Intake.collect now (cluster.snapshots now) supply cluster.queue sources).failure =
      some error ↔ cluster.Fails now supply sources error :=
  Intake.failure_collect_eq_some_iff

/-- Only one source fails, since none is asked after it. -/
theorem Fails.unique {cluster : Cluster} {now : Instant} {supply : PodId.Supply}
    {sources : List σ} {first second : SubmitError}
    (hfirst : cluster.Fails now supply sources first)
    (hsecond : cluster.Fails now supply sources second) : first = second := by
  rw [← failure_collect_iff] at hfirst hsecond
  exact Option.some.inj (hfirst.symm.trans hsecond)

/-- A tick ends with the error of a source that failed, or else with a placement. -/
theorem tick_cases {cluster : Cluster} {number : UInt64} {now : Instant} {supply : PodId.Supply}
    {sources : List σ} {outcome : TickOutcome σ}
    (h : cluster.tick number now supply sources = outcome) :
    (∃ error, cluster.Fails now supply sources error ∧
      outcome.cluster = cluster.filled now supply sources ∧ outcome.attempt = none ∧
      outcome.result = .error (.submitter error)) ∨
    ((∀ error, ¬ cluster.Fails now supply sources error) ∧
      ∃ placement,
        Placed (cluster.filled now supply sources) now outcome.cluster
          (outcome.attempt.map (·.entry)) placement ∧
        outcome.result = placement.map fun placement =>
          { tick := number
            clock := now
            submitted :=
              (Submitter.returned now (cluster.snapshots now) supply sources).length
            placement
            pending := outcome.cluster.queue.size }) := by
  subst h
  unfold tick
  simp only [filled_eq]
  cases hfailure : (Intake.collect now (cluster.snapshots now) supply cluster.queue
      sources).failure with
  | some error => exact .inl ⟨error, failure_collect_iff.1 hfailure, rfl, rfl, rfl⟩
  | none =>
    have hplaced := placed_place (cluster.filled now supply sources) now
    refine .inr ⟨fun error hfails => ?_, _, hplaced, ?_⟩
    · rw [failure_collect_iff.2 hfails] at hfailure
      cases hfailure
    · rw [← Intake.submitted_collect now _ supply cluster.queue]
      rfl

/-- A summary bears the number and the instant of its tick. -/
theorem tick_of_result_tick {cluster : Cluster} {number : UInt64} {now : Instant}
    {supply : PodId.Supply} {sources : List σ} {summary : TickSummary}
    (h : (cluster.tick number now supply sources).result = .ok summary) :
    summary.tick = number ∧ summary.clock = now := by
  rcases tick_cases (rfl : cluster.tick number now supply sources = _) with
    ⟨error, -, -, -, hresult⟩ | ⟨-, placement, -, hresult⟩
  · rw [hresult] at h
    cases h
  · rw [hresult] at h
    cases placement with
    | error error => cases h
    | ok placement =>
      obtain rfl := Except.ok.inj h
      exact ⟨rfl, rfl⟩

end Tick

/-! ### Nodes under their own names -/

/-- Every node is kept under its own name. -/
def Keyed (cluster : Cluster) : Prop :=
  ∀ name node, cluster.nodes.get? name = some node → node.name = name

/-- A node of a new cluster is one of those given, under its own name. -/
theorem mem_of_get?_new {nodes : List Node} {strategy : Strategy} {name : NodeName} {node : Node}
    (h : (new nodes strategy).nodes.get? name = some node) : node ∈ nodes ∧ node.name = name := by
  have hmem := NameMap.mem_entries_ofList (NameMap.mem_entries_of_get? h)
  obtain ⟨other, hother, heq⟩ := List.mem_map.1 hmem
  obtain ⟨hname, rfl⟩ := Prod.mk.inj heq
  exact ⟨hother, hname⟩

theorem keyed_new (nodes : List Node) (strategy : Strategy) : (new nodes strategy).Keyed :=
  fun _ _ hget => (mem_of_get?_new hget).2

/-- The view that was chosen is that of the node under the chosen name, so the pod fits there and
is bound. -/
theorem Keyed.exists_bind {cluster : Cluster} (h : cluster.Keyed) {now : Instant} {pod : Pod}
    {name : NodeName} {score feasible : Nat}
    (hchoice : cluster.strategy.schedule pod (cluster.snapshots now) =
      .selected name score feasible) :
    ∃ node bound, cluster.nodes.get? name = some node ∧ node.bind now pod = .ok bound := by
  obtain ⟨snapshot, hmem, hfits, hname, -⟩ := Strategy.exists_of_schedule_eq_selected hchoice
  obtain ⟨key, node, hget, rfl⟩ := mem_snapshots_iff.1 hmem
  have hkey : key = name := (h key node hget).symm.trans hname
  have hnodefits : node.fits pod := hfits
  obtain ⟨allocated, -, hbind⟩ := Node.bind_of_fits hnodefits now
  exact ⟨node, _, hkey ▸ hget, hbind⟩

theorem Keyed.bind_ne_error {cluster : Cluster} (h : cluster.Keyed) {now : Instant} {pod : Pod}
    {name : NodeName} {score feasible : Nat}
    (hchoice : cluster.strategy.schedule pod (cluster.snapshots now) =
      .selected name score feasible) (queue : PodQueue) (error : TickError) :
    { cluster with queue }.bind now pod name ≠ .error error := by
  obtain ⟨node, bound, hget, hbind⟩ := h.exists_bind hchoice
  rw [bind]
  simp only [hget, hbind]
  intro herror
  cases herror

theorem Keyed.placed {cluster after : Cluster} {now : Instant} {entry : Option QueuedPod}
    {placement : Except TickError Placement} (h : cluster.Keyed)
    (hplaced : Placed cluster now after entry placement) : after.Keyed := by
  cases hplaced with
  | idle => exact h
  | requeued => exact h
  | refused => exact h
  | @bound _ _ name _ _ node after _ _ hnode hbind =>
    intro other found hget
    rw [NameMap.get?_insert] at hget
    split at hget
    · rename_i heq
      rw [heq, ← Option.some.inj hget, (Node.name_of_bind hbind).1]
      exact h name node hnode
    · exact h other found hget

theorem Keyed.placement_ok {cluster after : Cluster} {now : Instant} {entry : Option QueuedPod}
    {placement : Except TickError Placement} (h : cluster.Keyed)
    (hplaced : Placed cluster now after entry placement) : ∃ result, placement = .ok result := by
  cases hplaced with
  | idle => exact ⟨_, rfl⟩
  | requeued => exact ⟨_, rfl⟩
  | bound => exact ⟨_, rfl⟩
  | refused hpop hchoice hbind => exact absurd hbind (h.bind_ne_error hchoice _ _)

end ClusterSim.Cluster
