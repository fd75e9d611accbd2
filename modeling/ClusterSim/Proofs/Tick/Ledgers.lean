import ClusterSim.Proofs.Tick.Course
import ClusterSim.Workload

/-!
# The ledgers of a cluster

The only change that a tick makes to a node is a bind, so whatever binding keeps holds of the nodes
of every cluster that ticks reach. Main statement: `ledgers_in_order`.
-/

namespace ClusterSim

namespace Cluster

/-- A node of the cluster is one of the origin, of the same name, after binds. -/
def Grown (origin cluster : Cluster) : Prop :=
  cluster.nodes.names = origin.nodes.names ∧
    ∀ name node, cluster.nodes.get? name = some node →
      ∃ first series, origin.nodes.get? name = some first ∧ node = first.attempts series

theorem Grown.refl (cluster : Cluster) : cluster.Grown cluster :=
  ⟨rfl, fun _ node hget => ⟨node, [], hget, rfl⟩⟩

theorem Grown.placed {origin cluster after : Cluster} {now : Instant} {entry : Option QueuedPod}
    {placement : Except TickError Placement} (h : origin.Grown cluster)
    (hplaced : Placed cluster now after entry placement) : origin.Grown after := by
  cases hplaced with
  | idle => exact h
  | requeued => exact h
  | refused => exact h
  | @bound entry _ name _ _ node bound _ _ hnode hbind =>
    refine ⟨(NameMap.names_insert_of_get? hnode bound).trans h.1, fun other found hget => ?_⟩
    rw [NameMap.get?_insert] at hget
    split at hget
    · rename_i heq
      obtain ⟨first, series, hfirst, hseries⟩ := h.2 name node hnode
      refine ⟨first, series ++ [(now, entry.pod)], heq ▸ hfirst, ?_⟩
      rw [Node.attempts_append, ← hseries, ← Option.some.inj hget]
      exact (Node.attempt_of_bind hbind).symm
    · exact h.2 other found hget

end Cluster

theorem Course.grown {origin cluster : Cluster} {records : List TickRecord}
    (h : Course origin records cluster) : origin.Grown cluster := by
  induction h using lawful_induction with
  | start => exact .refl origin
  | @next _ record _ lawful _ ih =>
    have hfilled : origin.Grown record.filled := ih
    exact lawful.after_of hfilled hfilled.placed

/-- The books of a node are in order whatever has been tried on it, and those of all nodes of a
cluster whatever ticks it has gone through; names and capacities stay. -/
theorem ledgers_in_order :
    (∀ (name : NodeName) (capacity : Resources) (series : List (Instant × Pod)),
      ((Node.new name capacity).attempts series).Ledger ∧
      ((Node.new name capacity).attempts series).name = name ∧
      ((Node.new name capacity).attempts series).capacity = capacity) ∧
    ∀ (nodes : List Node) (strategy : Strategy) (records : List TickRecord) (cluster : Cluster),
      (∀ node ∈ nodes, node.Built) → Course (.new nodes strategy) records cluster →
        cluster.nodes.names = (Cluster.new nodes strategy).nodes.names ∧
        ∀ name node, cluster.nodes.get? name = some node →
          node.Ledger ∧ node.name = name ∧
          ∃ first, (Cluster.new nodes strategy).nodes.get? name = some first ∧
            first.name = name ∧ node.capacity = first.capacity := by
  refine ⟨fun name capacity series => ?_, fun nodes strategy records cluster hbuilt h => ?_⟩
  · exact ⟨Node.ledger_attempts (Node.ledger_new name capacity) series,
      Node.name_attempts (.new name capacity) series⟩
  · refine ⟨h.grown.1, fun name node hget => ?_⟩
    obtain ⟨first, series, hfirst, rfl⟩ := h.grown.2 name node hget
    obtain ⟨hmem, hname⟩ := Cluster.mem_of_get?_new hfirst
    obtain ⟨hsame, hcapacity⟩ := first.name_attempts series
    exact ⟨((hbuilt first hmem).attempts series).ledger, hsame.trans hname, first, hfirst, hname,
      hcapacity⟩

/-- A node that has bound one pod and refused another, and binds a third in a tick. -/
theorem ledgers_in_order_third_pod :
    let node := (Node.new "node-a" (.ofList [("cpu", 1000)])).attempts
      [(.epoch, .new ⟨1⟩ "web" (.ofList [("cpu", 300), ("gpu", 0)]) 0),
       (.epoch, .new ⟨2⟩ "big" (.ofList [("cpu", 701)]) 0)]
    let script : Script := ⟨[[.new ⟨3⟩ "job" (.ofList [("cpu", 700)]) 5]]⟩
    let cluster := ((Cluster.new [node] .mostAllocated).tick 1 .epoch .fresh [script]).cluster
    (∀ after, cluster.nodes.get? "node-a" = some after → after.Ledger) ∧
    (cluster.nodes.get? "node-a").map (·.allocated.toList) =
      some [("cpu", 1000), ("gpu", 0)] := by
  intro node script cluster
  have hbuilt : ∀ other ∈ [node], other.Built := by
    intro other hmem
    rw [List.mem_singleton.1 hmem]
    exact ⟨_, rfl⟩
  have hledger := (ledgers_in_order.2 [node] .mostAllocated _ cluster hbuilt
    (.next .start 1 .epoch .fresh [script])).2 "node-a"
  exact ⟨fun after hget => (hledger after hget).1, by decide⟩

end ClusterSim
