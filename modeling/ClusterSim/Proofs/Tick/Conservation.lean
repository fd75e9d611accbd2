import ClusterSim.Proofs.Queue
import ClusterSim.Proofs.Tick.Course
import ClusterSim.Workload
import Mathlib.Data.Multiset.AddSub

/-!
# No pod is lost or duplicated

A pod enters the queue when a source submits it, and from there it moves to the end of the list of
one node, or goes back. Main statement: `pods_conserved`, which accounts for all pods of a cluster
with the time at which they were submitted, and for the pods of each node with the time at which
they were bound.
-/

namespace ClusterSim

namespace Cluster

/-- All pods of a cluster: those in the queue, then those on the nodes. -/
def pods (cluster : Cluster) : List Pod :=
  cluster.queue.pods ++ cluster.nodes.values.flatMap (·.pods)

/-- All pods of a cluster with their number, apart from where they stand. -/
def population (cluster : Cluster) : Multiset Pod := cluster.pods.map Pod.unplaced

/-- A node with one pod more adds this pod to those of all nodes. -/
theorem flatMap_pods_insert_perm {nodes : NameMap Node} {name : NodeName} {node bound : Node}
    {pod : Pod} (hnode : nodes.get? name = some node) (hpods : bound.pods = node.pods ++ [pod]) :
    ((nodes.insert name bound).values.flatMap (·.pods)).Perm
      (pod :: nodes.values.flatMap (·.pods)) := by
  obtain ⟨before, after, hold, hnew⟩ := NameMap.exists_split_of_get? hnode
  rw [NameMap.values, NameMap.values, hold, hnew bound]
  simp only [List.map_append, List.map_cons, List.flatMap_append, List.flatMap_cons, hpods]
  rw [List.append_assoc node.pods, ← List.append_assoc _ node.pods, ← List.append_assoc _ node.pods]
  exact List.perm_middle

/-- The pods that the sources of a tick returned join the others, stamped. -/
theorem pods_filled_perm (record : TickRecord) :
    record.filled.pods.Perm
      (record.before.pods ++ record.returned.map (Pod.stamp record.clock)) := by
  have hqueue :=
    record.before.queue.pods_pushAll_perm (record.returned.map (Pod.stamp record.clock))
  refine (hqueue.append_right _).trans ?_
  rw [List.append_assoc]
  exact List.perm_append_comm

/-- A placement moves at most one pod. -/
theorem population_placed {cluster after : Cluster} {now : Instant} {entry : Option QueuedPod}
    {placement : Except TickError Placement} (h : cluster.Keyed)
    (hplaced : Placed cluster now after entry placement) :
    after.population = cluster.population := by
  cases hplaced with
  | idle => rfl
  | @requeued entry queue hpop hchoice =>
    refine Multiset.coe_eq_coe.2 (List.Perm.map _ ?_)
    show ((queue.placeBack entry).pods ++ _).Perm (cluster.queue.pods ++ _)
    rw [PodQueue.pods_of_pop hpop]
    exact (queue.pods_placeBack_perm entry).append_right _
  | @bound entry queue name _ _ node bound hpop hchoice hnode hbind =>
    -- the pod leaves the head of the queue and joins the pods of its node
    have hnodes := flatMap_pods_insert_perm hnode (Node.pods_of_bind hbind)
    have hmoved := (hnodes.append_left queue.pods).trans List.perm_middle
    refine (Multiset.coe_eq_coe.2 (hmoved.map Pod.unplaced)).trans ?_
    show _ = (((cluster.queue.pods ++ _).map Pod.unplaced : List Pod) : Multiset Pod)
    rw [PodQueue.pods_of_pop hpop]
    rfl
  | refused hpop hchoice hbind => exact absurd hbind (h.bind_ne_error hchoice _ _)

/-- The pods of the node under a name, in the order in which they were bound. -/
def podsOn (cluster : Cluster) (name : NodeName) : Option (List Pod) :=
  (cluster.nodes.get? name).map (·.pods)

/-- The pods that a placement adds to the node under a name, as they stand there. -/
def gain (now : Instant) (entry : Option QueuedPod) (placement : Except TickError Placement)
    (name : NodeName) : List Pod :=
  match entry, placement with
  | some tried, .ok (.bound _ chosen) =>
    if name = chosen then [tried.pod.placedOn chosen now] else []
  | _, _ => []

/-- Only one node gains a pod, which is marked as bound there and then. -/
theorem gain_cases (now : Instant) (entry : Option QueuedPod)
    (placement : Except TickError Placement) :
    (∀ name, gain now entry placement name = []) ∨
      ∃ chosen pod, pod.status = .bound chosen now ∧
        ∀ name, gain now entry placement name = if name = chosen then [pod] else [] := by
  unfold gain
  split
  · rename_i tried id chosen
    exact .inr ⟨chosen, tried.pod.placedOn chosen now, rfl, fun name => rfl⟩
  · exact .inl fun name => rfl

theorem podsOn_append_nil (cluster : Cluster) (name : NodeName) :
    cluster.podsOn name = (cluster.podsOn name).map (· ++ []) := by
  simp

/-- A placement appends what it adds to the pods of each node. -/
theorem podsOn_placed {cluster after : Cluster} {now : Instant} {entry : Option QueuedPod}
    {placement : Except TickError Placement} (h : cluster.Keyed)
    (hplaced : Placed cluster now after entry placement) (name : NodeName) :
    after.podsOn name = (cluster.podsOn name).map (· ++ gain now entry placement name) := by
  cases hplaced with
  | idle => exact cluster.podsOn_append_nil name
  | requeued => exact cluster.podsOn_append_nil name
  | refused => exact cluster.podsOn_append_nil name
  | @bound tried queue chosen _ _ node bound _ _ hnode hbind =>
    unfold podsOn
    rw [NameMap.get?_insert, gain]
    by_cases heq : name = chosen
    · rw [if_pos heq, if_pos heq, heq, hnode, Option.map_some, Node.pods_of_bind hbind,
        h chosen node hnode]
      rfl
    · rw [if_neg heq, if_neg heq]
      exact cluster.podsOn_append_nil name

end Cluster

namespace TickRecord

/-- What a tick adds to the pods of a cluster: what its sources returned, with its own time. -/
def arrivals (record : TickRecord) : List Pod :=
  record.returned.map fun pod => { pod with createdAt := some record.clock, status := .pending }

/-- The pods that a tick binds to the node under a name, as they stand there. -/
def boundTo (record : TickRecord) : NodeName → List Pod :=
  Cluster.gain record.clock record.entry (record.result.map (·.placement))

variable {record : TickRecord}

theorem population_filled (record : TickRecord) :
    record.filled.population = record.before.population + record.arrivals := by
  have hpods := (Cluster.pods_filled_perm record).map Pod.unplaced
  rw [List.map_append, List.map_map] at hpods
  exact Multiset.coe_eq_coe.2 hpods

/-- A tick adds what was returned, and loses nothing. -/
theorem Lawful.population (h : record.Lawful) (hkeyed : record.before.Keyed) :
    record.after.population = record.before.population + record.arrivals := by
  rw [← population_filled]
  have hfilled : record.filled.Keyed := hkeyed
  exact h.after_of (P := fun after => after.population = record.filled.population) rfl
    (Cluster.population_placed hfilled)

/-- A tick appends what it binds to the pods of each node. -/
theorem Lawful.podsOn (h : record.Lawful) (hkeyed : record.before.Keyed) (name : NodeName) :
    record.after.podsOn name = (record.before.podsOn name).map (· ++ record.boundTo name) := by
  cases h with
  | failed hresult hentry hafter =>
    rw [hafter, boundTo, hentry]
    exact record.before.podsOn_append_nil name
  | @placed placement hplaced hresult =>
    have hfilled : record.filled.Keyed := hkeyed
    have hplacement : record.result.map (·.placement) = placement := by
      rw [hresult]
      cases placement <;> rfl
    rw [boundTo, hplacement]
    exact Cluster.podsOn_placed hfilled hplaced name

end TickRecord

namespace Course

variable {origin : Cluster} {records : List TickRecord} {cluster : Cluster}

theorem population (h : Course origin records cluster) (horigin : origin.Keyed) :
    cluster.population = origin.population + (records.flatMap (·.arrivals) : List Pod) := by
  induction h using lawful_induction with
  | start => exact (Multiset.add_zero _).symm
  | next past lawful _ ih =>
    rw [lawful.population (past.keyed horigin), ih, List.flatMap_append, List.flatMap_singleton,
      ← Multiset.coe_add, Multiset.add_assoc]

theorem podsOn (h : Course origin records cluster) (horigin : origin.Keyed) (name : NodeName) :
    cluster.podsOn name =
      (origin.podsOn name).map (· ++ records.flatMap (·.boundTo name)) := by
  induction h using lawful_induction with
  | start => exact origin.podsOn_append_nil name
  | next past lawful _ ih =>
    rw [lawful.podsOn (past.keyed horigin), ih, List.flatMap_append, List.flatMap_singleton,
      Option.map_map]
    congr
    funext pods
    exact List.append_assoc ..

end Course

/-- Every pod that a source returned is in the queue or on one node, as often as it was returned,
and keeps the time at which it was submitted; a source that fails returns none. A tick appends one
pod to the pods of one node at most, and a pod that was bound keeps its place, its node and the
time at which it was bound. -/
theorem pods_conserved {nodes : List Node} {strategy : Strategy} {records : List TickRecord}
    {cluster : Cluster} (h : Course (.new nodes strategy) records cluster) :
    cluster.population =
      (Cluster.new nodes strategy).population + (records.flatMap (·.arrivals) : List Pod) ∧
    (∀ record ∈ records,
      (∀ name,
        record.after.podsOn name = (record.before.podsOn name).map (· ++ record.boundTo name)) ∧
      ((∀ name, record.boundTo name = []) ∨
        ∃ chosen pod, pod.status = .bound chosen record.clock ∧
          ∀ name, record.boundTo name = if name = chosen then [pod] else [])) ∧
    ∀ name, cluster.podsOn name =
      ((Cluster.new nodes strategy).podsOn name).map (· ++ records.flatMap (·.boundTo name)) := by
  have hkeyed := Cluster.keyed_new nodes strategy
  refine ⟨h.population hkeyed, fun record hmem => ⟨fun name => ?_, ?_⟩, h.podsOn hkeyed⟩
  · obtain ⟨lawful, hbefore⟩ := h.lawful_of_mem hkeyed record hmem
    exact lawful.podsOn hbefore name
  · exact Cluster.gain_cases record.clock record.entry _

/-- A pod that was bound, and one that was returned just before another source failed. -/
theorem pods_conserved_source_failed :
    let web : Pod := .new ⟨7⟩ "web" (.ofList [("cpu", 300)]) 0
    let job : Pod := .new ⟨7⟩ "job" (.ofList [("cpu", 900)]) 4
    let first := (Cluster.new [.new "node-a" (.ofList [("cpu", 1000)])] .leastAllocated).tick 1
      .epoch .fresh [Script.mk [[web]]]
    let sources : List Workload :=
      [.script ⟨[[job]]⟩, .faulty ⟨"trace", "out of workload", 1, 0⟩, .script ⟨[[web]]⟩]
    let second := first.cluster.tick 2 .latest .fresh sources
    second.cluster.population = ([web.stamp .epoch, job.stamp .latest] : List Pod) ∧
    second.cluster.podsOn "node-a" = some [(web.stamp .epoch).placedOn "node-a" .epoch] := by
  intro web job first sources second
  have hpast : Course _ _ first.cluster := .next .start 1 .epoch .fresh [Script.mk [[web]]]
  obtain ⟨hpopulation, -, hpods⟩ := pods_conserved (.next hpast 2 .latest .fresh sources)
  exact ⟨hpopulation.trans rfl, (hpods "node-a").trans rfl⟩

end ClusterSim
