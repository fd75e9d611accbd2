import ClusterSim.Proofs.Queue
import ClusterSim.Proofs.Tick.Course
import ClusterSim.Workload

/-!
# A pod that was placed back is never bound

Ticks bind pods and release none, so no node ever has more available than before. A pod that fits
nowhere therefore fits nowhere from then on (`Course.rejects`), and an entry of the queue that has
been placed back is that of such a pod (`Hopeless`). Main statement: `placed_back_never_bound`.
-/

namespace ClusterSim

namespace Cluster

/-- The pod fits no node. -/
def Rejects (cluster : Cluster) (pod : Pod) : Prop :=
  ∀ name node, cluster.nodes.get? name = some node → ¬ node.fits pod

/-- No node is chosen exactly for a pod that fits none, whenever the views were taken. -/
theorem schedule_eq_doesNotFit_iff {cluster : Cluster} {now : Instant} {pod : Pod} {id : PodId} :
    cluster.strategy.schedule pod (cluster.snapshots now) = .doesNotFit id ↔
      id = pod.id ∧ cluster.Rejects pod := by
  rw [Strategy.schedule_eq_doesNotFit_iff]
  refine and_congr_right fun _ => ⟨fun h name node hget => ?_, fun h snapshot hmem => ?_⟩
  · exact h (node.snapshot now) (mem_snapshots_iff.2 ⟨name, node, hget, rfl⟩)
  · obtain ⟨name, node, hget, rfl⟩ := mem_snapshots_iff.1 hmem
    exact h name node hget

theorem Rejects.not_selected {cluster : Cluster} {now : Instant} {pod : Pod}
    (h : cluster.Rejects pod) {name : NodeName} {score feasible : Nat} :
    cluster.strategy.schedule pod (cluster.snapshots now) ≠ .selected name score feasible := by
  intro hchoice
  rw [schedule_eq_doesNotFit_iff.2 ⟨rfl, h⟩] at hchoice
  cases hchoice

section Placed

variable {cluster after : Cluster} {now : Instant} {entry : Option QueuedPod}
  {placement : Except TickError Placement}

/-- The one node that a placement changes has less available than before. -/
theorem Rejects.placed {pod : Pod} (h : cluster.Rejects pod)
    (hplaced : Placed cluster now after entry placement) : after.Rejects pod := by
  cases hplaced with
  | idle => exact h
  | requeued => exact h
  | refused => exact h
  | @bound _ _ name _ _ node bound _ _ hnode hbind =>
    intro other found hget hfits
    rw [NameMap.get?_insert] at hget
    split at hget
    · obtain rfl := Option.some.inj hget
      exact h name node hnode (Node.fits_of_fits_bind hbind hfits)
    · exact h other found hget hfits

/-- The pods that have been placed back fit nowhere. -/
def Hopeless (cluster : Cluster) : Prop :=
  ∀ entry ∈ cluster.queue.toList, entry.requeues ≠ 0 → cluster.Rejects entry.pod

theorem hopeless_new (nodes : List Node) (strategy : Strategy) :
    (new nodes strategy).Hopeless := by
  intro entry hmem
  cases hmem

theorem Hopeless.placed (h : cluster.Hopeless)
    (hplaced : Placed cluster now after entry placement) : after.Hopeless := by
  intro other hmem hcount
  cases hplaced with
  | idle => exact h other hmem hcount
  | @requeued tried queue hpop hchoice =>
    -- the pod that goes back has just been found to fit nowhere
    have htaken := PodQueue.toList_of_pop hpop
    rcases List.mem_cons.1 ((queue.toList_enqueue_perm _).mem_iff.1 hmem) with rfl | hold
    · exact (schedule_eq_doesNotFit_iff.1 hchoice).2
    · exact h other (htaken ▸ List.mem_cons_of_mem _ hold) hcount
  | bound hpop hchoice hnode hbind =>
    have htaken := PodQueue.toList_of_pop hpop
    have hbefore := h other (htaken ▸ List.mem_cons_of_mem _ hmem) hcount
    exact hbefore.placed (.bound hpop hchoice hnode hbind)
  | refused hpop hchoice hbind =>
    have htaken := PodQueue.toList_of_pop hpop
    exact h other (htaken ▸ List.mem_cons_of_mem _ hmem) hcount

/-- A pod that is bound has never been placed back. -/
theorem Hopeless.requeues_of_bound (h : cluster.Hopeless) {id : PodId} {name : NodeName}
    (hplaced : Placed cluster now after entry (.ok (.bound id name))) :
    ∃ tried, entry = some tried ∧ tried.pod.id = id ∧ tried.requeues = 0 := by
  cases hplaced with
  | @bound tried _ _ _ _ _ _ hpop hchoice hnode hbind =>
    have hmem : tried ∈ cluster.queue.toList :=
      PodQueue.toList_of_pop hpop ▸ List.mem_cons_self
    by_cases hcount : tried.requeues = 0
    · exact ⟨tried, rfl, rfl, hcount⟩
    · exact absurd hchoice (h tried hmem hcount).not_selected

end Placed

end Cluster

namespace TickRecord

/-- The pod was taken from the queue in the tick. -/
def Tried (record : TickRecord) (pod : Pod) : Prop :=
  ∃ entry, record.entry = some entry ∧ entry.pod = pod

/-- The pod was taken from the queue in the tick, fitted nowhere and went back. -/
def PlacedBack (record : TickRecord) (pod : Pod) : Prop :=
  record.Tried pod ∧ ∃ summary requeues, record.result = .ok summary ∧
    summary.placement = .requeued pod.id requeues

variable {record : TickRecord} {pod : Pod}

/-- The pods that the sources of a tick submit have not been placed back. -/
theorem hopeless_filled (h : record.before.Hopeless) : record.filled.Hopeless := by
  intro entry hmem hcount
  rcases PodQueue.mem_toList_pushAll hmem with hold | hnew
  · exact h entry hold hcount
  · exact absurd hnew hcount

theorem Lawful.rejects_of_placedBack (h : record.Lawful) (hback : record.PlacedBack pod) :
    record.after.Rejects pod := by
  obtain ⟨⟨entry, hentry, rfl⟩, summary, requeues, hok, hplacement⟩ := hback
  have hplaced := h.placed_of_ok hok
  rw [hentry, hplacement] at hplaced
  generalize record.after = after at hplaced
  cases hplaced with
  | requeued hpop hchoice => exact (Cluster.schedule_eq_doesNotFit_iff.1 hchoice).2

/-- A pod that fits nowhere and is tried goes back. -/
theorem Lawful.placedBack_of_rejects (h : record.Lawful) (hrejects : record.before.Rejects pod)
    (htried : record.Tried pod) : record.PlacedBack pod := by
  refine ⟨htried, ?_⟩
  obtain ⟨entry, hentry, rfl⟩ := htried
  have hfilled : record.filled.Rejects entry.pod := hrejects
  cases h with
  | failed _ hnone =>
    rw [hentry] at hnone
    cases hnone
  | placed hplaced hresult =>
    rw [hentry] at hplaced
    generalize record.after = after at hplaced hresult
    cases hplaced with
    | requeued hpop hchoice => exact ⟨_, _, hresult, rfl⟩
    | bound hpop hchoice => exact absurd hchoice hfilled.not_selected
    | refused hpop hchoice => exact absurd hchoice hfilled.not_selected

end TickRecord

namespace Course

variable {origin cluster : Cluster} {records : List TickRecord}

/-- A pod that fits nowhere fits nowhere after any number of ticks. -/
theorem rejects (h : Course origin records cluster) {pod : Pod} (hrejects : origin.Rejects pod) :
    cluster.Rejects pod := by
  induction h using lawful_induction with
  | start => exact hrejects
  | @next _ record _ lawful _ ih =>
    have hfilled : record.filled.Rejects pod := ih
    exact lawful.after_of hfilled hfilled.placed

theorem hopeless (h : Course origin records cluster) (horigin : origin.Hopeless) :
    cluster.Hopeless := by
  induction h using lawful_induction with
  | start => exact horigin
  | next _ lawful _ ih =>
    have hfilled := TickRecord.hopeless_filled ih
    exact lawful.after_of hfilled hfilled.placed

theorem requeues_of_bound (h : Course origin records cluster) (horigin : origin.Hopeless) :
    ∀ record ∈ records, ∀ summary id name, record.result = .ok summary →
      summary.placement = .bound id name →
      ∃ entry, record.entry = some entry ∧ entry.pod.id = id ∧ entry.requeues = 0 := by
  induction h using lawful_induction with
  | start =>
    intro record hmem
    cases hmem
  | next past lawful _ ih =>
    intro record hmem summary id name hok hplacement
    rcases List.mem_append.1 hmem with hmem | hmem
    · exact ih record hmem summary id name hok hplacement
    · obtain rfl := List.mem_singleton.1 hmem
      have hplaced := lawful.placed_of_ok hok
      rw [hplacement] at hplaced
      exact (TickRecord.hopeless_filled (past.hopeless horigin)).requeues_of_bound hplaced

/-- A pod that was placed back in some tick fits nowhere since. -/
theorem rejects_of_placedBack (h : Course origin records cluster) :
    ∀ record ∈ records, ∀ pod, record.PlacedBack pod → cluster.Rejects pod := by
  induction h using lawful_induction with
  | start =>
    intro record hmem
    cases hmem
  | @next _ last _ lawful _ ih =>
    intro record hmem pod hback
    rcases List.mem_append.1 hmem with hmem | hmem
    · have hfilled : last.filled.Rejects pod := ih record hmem pod hback
      exact lawful.after_of hfilled hfilled.placed
    · obtain rfl := List.mem_singleton.1 hmem
      exact lawful.rejects_of_placedBack hback

/-- A pod that was placed back is placed back whenever it is tried again. -/
theorem placedBack_again (h : Course origin records cluster) :
    records.Pairwise fun earlier later =>
      ∀ pod, earlier.PlacedBack pod → later.Tried pod → later.PlacedBack pod := by
  induction h using lawful_induction with
  | start => exact .nil
  | @next records last past lawful _ ih =>
    refine List.pairwise_append.2 ⟨ih, List.pairwise_singleton _ _, ?_⟩
    intro earlier hearlier later hlater pod hback htried
    obtain rfl := List.mem_singleton.1 hlater
    exact lawful.placedBack_of_rejects (past.rejects_of_placedBack earlier hearlier pod hback) htried

end Course

/-- Whatever ticks a new cluster goes through: an entry that has been placed back fits no node; a
pod that is bound has never been placed back; a pod that was placed back once is placed back
whenever it is tried again; and a pod for which no node was chosen gets none in any later attempt. -/
theorem placed_back_never_bound {nodes : List Node} {strategy : Strategy}
    {records : List TickRecord} {cluster : Cluster}
    (h : Course (.new nodes strategy) records cluster) :
    (∀ entry ∈ cluster.queue.toList, 1 ≤ entry.requeues →
      ∀ name node, cluster.nodes.get? name = some node → ¬ node.fits entry.pod) ∧
    (∀ record ∈ records, ∀ summary id name, record.result = .ok summary →
      summary.placement = .bound id name →
      ∃ entry, record.entry = some entry ∧ entry.pod.id = id ∧ entry.requeues = 0) ∧
    (records.Pairwise fun earlier later =>
      ∀ pod, earlier.PlacedBack pod → later.Tried pod → later.PlacedBack pod) ∧
    ∀ more after, Course cluster more after → ∀ pod id now later,
      cluster.strategy.schedule pod (cluster.snapshots now) = .doesNotFit id →
      after.strategy.schedule pod (after.snapshots later) = .doesNotFit id := by
  have hnew := Cluster.hopeless_new nodes strategy
  refine ⟨fun entry hmem hcount => ?_, h.requeues_of_bound hnew, h.placedBack_again, ?_⟩
  · refine h.hopeless hnew entry hmem fun hzero => ?_
    rw [hzero] at hcount
    exact absurd hcount (by decide)
  · intro more after hmore pod id now later hchoice
    obtain ⟨rfl, hrejects⟩ := Cluster.schedule_eq_doesNotFit_iff.1 hchoice
    exact Cluster.schedule_eq_doesNotFit_iff.2 ⟨rfl, hmore.rejects hrejects⟩

/-- A pod that is too big goes back twice, and another one is bound in between. -/
theorem placed_back_never_bound_third_tick :
    let big : Pod := .new ⟨7⟩ "big" (.ofList [("cpu", 1001)]) 5
    let web : Pod := .new ⟨8⟩ "web" (.ofList [("cpu", 300)]) 5
    let origin : Cluster := .new [.new "node-a" (.ofList [("cpu", 1000)])] .leastAllocated
    let first := (origin.tick 1 .epoch .fresh [Script.mk [[big, web]]]).cluster
    let second := (first.tick 2 .epoch .fresh [Script.mk []]).cluster
    let third := (second.tick 3 .epoch .fresh [Script.mk []]).cluster
    third.queue.toList = [⟨big.stamp .epoch, 0, 2⟩] ∧
    (∀ node, third.nodes.get? "node-a" = some node → ¬ node.fits (big.stamp .epoch)) ∧
    (third.nodes.get? "node-a").map (·.pods) =
      some [(web.stamp .epoch).placedOn "node-a" .epoch] := by
  intro big web origin first second third
  have hcourse : Course origin _ third :=
    .next (.next (.next .start 1 .epoch .fresh [Script.mk [[big, web]]])
      2 .epoch .fresh [Script.mk []]) 3 .epoch .fresh [Script.mk []]
  have hqueue : third.queue.toList = [⟨big.stamp .epoch, 0, 2⟩] := by decide
  have hmem : ⟨big.stamp .epoch, 0, 2⟩ ∈ third.queue.toList := hqueue ▸ List.mem_cons_self
  refine ⟨hqueue, fun node hget => ?_, by decide⟩
  exact (placed_back_never_bound hcourse).1 _ hmem (by decide) "node-a" node hget

end ClusterSim
