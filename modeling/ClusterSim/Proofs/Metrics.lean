import ClusterSim.Metrics
import ClusterSim.Proofs.Tick.Conservation
import ClusterSim.Proofs.Tick.Counting
import ClusterSim.Proofs.Tick.Ledgers
import ClusterSim.Workload

/-!
# Metrics agree

The views of the nodes, the bound pods and the pending pods of a picture are made separately. They
agree with each other, with the summary of the tick and with all that has been submitted. Main
statement: `metrics_agree`.
-/

namespace ClusterSim

/-- A view of a node shows these pods: they are bound to it, their demands make up what is
allocated, and the rest of the capacity is available. -/
structure NodeSnapshot.Shows (snapshot : NodeSnapshot) (pods : List Pod) : Prop where
  ids_eq : snapshot.pods = pods.map (·.id)
  status_eq : ∀ pod ∈ pods, ∃ since, pod.status = .bound snapshot.name since
  allocated_eq : ∀ d, snapshot.allocated.amount d = Pod.totalDemand pods d
  allocated_le : ∀ d, snapshot.allocated.amount d ≤ snapshot.capacity.amount d
  available_add : ∀ d,
    snapshot.available.amount d + snapshot.allocated.amount d = snapshot.capacity.amount d

theorem Node.Ledger.shows {node : Node} (h : node.Ledger) (now : Instant) :
    (node.snapshot now).Shows node.pods where
  ids_eq := rfl
  status_eq := h.status_eq
  allocated_eq := h.allocated_eq
  allocated_le := h.allocated_le
  available_add := h.available_add

/-- An entry shows this pending pod. -/
structure QueueEntry.Shows (entry : QueueEntry) (queued : QueuedPod) : Prop where
  pod_eq : entry.pod = queued.pod.id
  name_eq : entry.name = queued.pod.name
  priority_eq : entry.priority = queued.pod.priority
  arrival_eq : entry.arrival = queued.arrival
  requeues_eq : entry.requeues = queued.requeues

theorem QueuedPod.shows_toEntry (queued : QueuedPod) : queued.toEntry.Shows queued :=
  ⟨rfl, rfl, rfl, rfl, rfl⟩

namespace Cluster

/-- The books of all nodes are in order. -/
def Solvent (cluster : Cluster) : Prop := ∀ node ∈ cluster.nodes.values, node.Ledger

theorem Keyed.map_name_values {cluster : Cluster} (h : cluster.Keyed) :
    cluster.nodes.values.map (·.name) = cluster.nodes.names := by
  rw [NameMap.values, NameMap.names, List.map_map]
  refine List.map_congr_left fun entry hmem => ?_
  exact h entry.1 entry.2 (NameMap.get?_of_mem_entries hmem)

/-- The views are in order of name. -/
theorem Keyed.ascending_snapshots {cluster : Cluster} (h : cluster.Keyed) (now : Instant) :
    (cluster.snapshots now).Pairwise fun view later => view.name < later.name := by
  have hnames : cluster.nodes.names.Pairwise (· < ·) :=
    List.pairwise_map.2 cluster.nodes.ascending
  rw [← h.map_name_values, List.pairwise_map] at hnames
  rw [snapshots, List.pairwise_map]
  exact hnames

/-- No pod on a node is missing from the bound pods, since all are marked as bound. -/
theorem Solvent.boundPods_eq {cluster : Cluster} (h : cluster.Solvent) :
    cluster.boundPods = (cluster.nodes.values.map (·.pods)).flatten := by
  rw [boundPods, ← List.flatMap_def]
  refine List.filter_eq_self.2 fun pod hmem => ?_
  obtain ⟨node, hnode, hpod⟩ := List.mem_flatMap.1 hmem
  obtain ⟨since, hstatus⟩ := (h node hnode).status_eq pod hpod
  rw [Pod.isBound, hstatus]
  rfl

theorem Solvent.shows {cluster : Cluster} (h : cluster.Solvent) (now : Instant) :
    List.Forall₂ NodeSnapshot.Shows (cluster.snapshots now)
      (cluster.nodes.values.map (·.pods)) := by
  rw [snapshots, List.forall₂_map_left_iff, List.forall₂_map_right_iff, List.forall₂_same]
  intro node hmem
  exact (h node hmem).shows now

theorem shows_entries (cluster : Cluster) (summary : TickSummary) :
    List.Forall₂ QueueEntry.Shows (cluster.metrics summary).queue cluster.queue.toList := by
  show List.Forall₂ _ (cluster.queue.toList.map QueuedPod.toEntry) _
  rw [List.forall₂_map_left_iff, List.forall₂_same]
  exact fun queued _ => queued.shows_toEntry

theorem ids_boundPods {cluster : Cluster} (h : cluster.Solvent) (now : Instant) :
    (cluster.snapshots now).flatMap (·.pods) = cluster.boundPods.map (·.id) := by
  rw [h.boundPods_eq, ← List.flatMap_def, List.map_flatMap, snapshots, List.flatMap_map]
  rfl

/-- The pods of a cluster are those that are pending and those that are bound. -/
theorem card_population {cluster : Cluster} (h : cluster.Solvent) :
    cluster.population.card = cluster.boundPods.length + cluster.queue.toList.length := by
  rw [population, Multiset.coe_card, List.length_map, pods, List.length_append, PodQueue.pods,
    List.length_map, h.boundPods_eq, ← List.flatMap_def]
  omega

end Cluster

namespace Course

variable {nodes : List Node} {strategy : Strategy} {records : List TickRecord} {cluster : Cluster}

/-- The last tick of a course. -/
theorem of_concat {origin : Cluster} {record : TickRecord}
    (h : Course origin (records ++ [record]) cluster) :
    record.Lawful ∧ record.after = cluster := by
  generalize hall : records ++ [record] = all at h
  induction h using lawful_induction with
  | start => cases List.append_ne_nil_of_right_ne_nil _ (List.cons_ne_nil _ _) hall
  | next _ lawful _ _ =>
    obtain ⟨-, hlast⟩ := List.append_inj' hall rfl
    obtain rfl := (List.cons.inj hlast).1
    exact ⟨lawful, rfl⟩

theorem solvent (h : Course (.new nodes strategy) records cluster)
    (hbuilt : ∀ node ∈ nodes, node.Built) : cluster.Solvent := by
  intro node hmem
  obtain ⟨name, hget⟩ := NameMap.mem_values_iff.1 hmem
  obtain ⟨first, series, hfirst, rfl⟩ := h.grown.2 name node hget
  exact ((hbuilt first (Cluster.mem_of_get?_new hfirst).1).attempts series).ledger

/-- On nodes that were empty there are as many pods as have been submitted. -/
theorem card_population (h : Course (.new nodes strategy) records cluster)
    (hnew : ∀ node ∈ nodes, node.pods = []) :
    cluster.population.card = (submissions records).length := by
  have hnone : (Cluster.new nodes strategy).population = 0 := by
    have hpods : (Cluster.new nodes strategy).nodes.values.flatMap (·.pods) = [] := by
      refine List.flatMap_eq_nil_iff.2 fun node hmem => ?_
      obtain ⟨name, hget⟩ := NameMap.mem_values_iff.1 hmem
      exact hnew node (Cluster.mem_of_get?_new hget).1
    rw [Cluster.population, Cluster.pods, hpods]
    rfl
  have hlength : ∀ record : TickRecord,
      record.arrivals.length = (record.returned.map (Pod.stamp record.clock)).length := by
    intro record
    rw [TickRecord.arrivals, List.length_map, List.length_map]
  rw [h.population (Cluster.keyed_new nodes strategy), hnone, Multiset.zero_add,
    Multiset.coe_card, submissions, List.length_flatMap, List.length_flatMap]
  simp only [hlength]

end Course

/-- The picture that is taken after a tick that succeeded, of nodes that were empty when the course
of ticks began and while fewer than `UInt64.size` pods are submitted. The nodes are in order of
name, seen at the instant of the tick. The bound pods are those of the nodes, one node after the
other, and each view shows its own. The entries of the queue show the pending pods in the order of
the queue, which is by descending priority. They are as many as the summary says, and with the bound
pods they are as many as have been submitted. -/
theorem metrics_agree {nodes : List Node} {strategy : Strategy} {records : List TickRecord}
    {record : TickRecord} {cluster : Cluster} {summary : TickSummary}
    (hnew : ∀ node ∈ nodes, node = .new node.name node.capacity)
    (h : Course (.new nodes strategy) (records ++ [record]) cluster)
    (hok : record.result = .ok summary)
    (hroom : (submissions (records ++ [record])).length < UInt64.size) :
    let metrics := cluster.metrics summary
    metrics.tick = record.number ∧ metrics.clock = record.clock ∧
    metrics.nodes.Pairwise (fun view later => view.name < later.name) ∧
    (∀ view ∈ metrics.nodes, view.takenAt = record.clock) ∧
    metrics.nodes.flatMap (·.pods) = metrics.pods.map (·.id) ∧
    metrics.pods = (cluster.nodes.values.map (·.pods)).flatten ∧
    List.Forall₂ NodeSnapshot.Shows metrics.nodes (cluster.nodes.values.map (·.pods)) ∧
    List.Forall₂ QueueEntry.Shows metrics.queue cluster.queue.toList ∧
    metrics.queue.Pairwise (fun entry later => later.priority ≤ entry.priority) ∧
    metrics.queue.length = summary.pending ∧
    metrics.pods.length + metrics.queue.length = (submissions (records ++ [record])).length := by
  intro metrics
  obtain ⟨lawful, rfl⟩ := h.of_concat
  have hsolvent : record.after.Solvent := h.solvent fun node hmem => ⟨[], hnew node hmem⟩
  have hempty : ∀ node ∈ nodes, node.pods = [] := by
    intro node hmem
    rw [hnew node hmem]
    rfl
  have hcounted := h.counted hroom
  have htotal := h.card_population hempty
  rw [Cluster.card_population hsolvent] at htotal
  obtain ⟨-, hnumber, hclock, hpending⟩ := lawful.of_ok hok
  have hlength : metrics.queue.length = record.after.queue.toList.length := List.length_map _
  refine ⟨hnumber, hclock, (h.keyed (Cluster.keyed_new _ _)).ascending_snapshots _, ?_,
    Cluster.ids_boundPods hsolvent _, hsolvent.boundPods_eq, hsolvent.shows _,
    record.after.shows_entries summary, ?_, ?_, ?_⟩
  · intro view hmem
    obtain ⟨node, -, rfl⟩ := List.mem_map.1 hmem
    exact hclock
  · exact List.pairwise_map.2 hcounted.tidy.sorted
  · rw [hlength, hpending, hcounted.size_eq]
  · rw [hlength]
    exact htotal

/-- After a tick whose source failed, one that binds a pod and leaves another pending. -/
theorem metrics_agree_second_tick :
    let big : Pod := .new ⟨7⟩ "big" (.ofList [("cpu", 700)]) 5
    let web : Pod := .new ⟨8⟩ "web" (.ofList [("cpu", 400)]) 0
    let nodes : List Node :=
      [.new "node-b" (.ofList [("cpu", 1000)]), .new "node-a" (.ofList [("cpu", 500)])]
    let failing : List Workload := [.script ⟨[[web]]⟩, .faulty ⟨"trace", "out of workload", 1, 0⟩]
    let first := (Cluster.new nodes .mostAllocated).record 1 .epoch .fresh failing
    let second := first.after.record 2 .latest .fresh [Script.mk [[big]]]
    let metrics := second.after.metrics ⟨2, .latest, 1, .bound ⟨7⟩ "node-b", 1⟩
    (metrics.nodes.map fun view => (view.name, view.pods)) =
      [("node-a", []), ("node-b", [⟨7⟩])] ∧
    metrics.pods = [big.stamp .latest |>.placedOn "node-b" .latest] ∧
    metrics.nodes.flatMap (·.pods) = metrics.pods.map (·.id) ∧
    metrics.queue = [⟨⟨8⟩, "web", 0, 0, 0⟩] ∧
    metrics.pods.length + metrics.queue.length = 2 := by
  intro big web nodes failing first second metrics
  have hnew : ∀ node ∈ nodes, node = .new node.name node.capacity := by
    intro node hmem
    simp only [nodes, List.mem_cons, List.not_mem_nil, or_false] at hmem
    rcases hmem with rfl | rfl <;> rfl
  have hfirst : Course (.new nodes .mostAllocated) [first] first.after :=
    Course.start.next_record 1 .epoch .fresh failing
  have hcourse : Course (.new nodes .mostAllocated) ([first] ++ [second]) second.after :=
    hfirst.next_record 2 .latest .fresh [Script.mk [[big]]]
  have hok : second.result = .ok ⟨2, .latest, 1, .bound ⟨7⟩ "node-b", 1⟩ := by decide +kernel
  obtain ⟨-, -, -, -, hids, -, -, -, -, -, htotal⟩ :=
    metrics_agree hnew hcourse hok (by decide)
  exact ⟨by decide +kernel, by decide +kernel, hids, by decide +kernel, htotal⟩

end ClusterSim
