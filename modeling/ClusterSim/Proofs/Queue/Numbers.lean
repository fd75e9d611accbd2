import ClusterSim.Queue

/-!
# The queue apart from the numbers of its pods

The number of a pod is shown, but nothing depends on it: what an operation makes of all else is
what it makes of a queue whose numbers have been struck out. Main statement: `pushAll_comm`, pods
that share no priority can be added in either order.
-/

namespace ClusterSim

/-- The entry with its number struck out. -/
def QueuedPod.unnumbered (entry : QueuedPod) : QueuedPod := { entry with arrival := 0 }

/-- The tier with the numbers of its entries struck out. -/
def Tier.unnumbered (tier : Tier) : Tier :=
  { tier with waiting := tier.waiting.map QueuedPod.unnumbered }

namespace PodQueue

/-- The queue with the numbers of its entries struck out. -/
def unnumbered (queue : PodQueue) : PodQueue :=
  { queue with tiers := queue.tiers.map Tier.unnumbered }

theorem toList_unnumbered (queue : PodQueue) :
    queue.unnumbered.toList = queue.toList.map QueuedPod.unnumbered := by
  rw [toList, unnumbered, List.flatMap_map, toList, List.map_flatMap]
  rfl

@[simp] theorem size_unnumbered (queue : PodQueue) : queue.unnumbered.size = queue.size := rfl

/-! ### Operations -/

theorem enqueueTier_unnumbered (entry : QueuedPod) (tiers : List Tier) :
    enqueueTier entry.unnumbered (tiers.map Tier.unnumbered) =
      (enqueueTier entry tiers).map Tier.unnumbered := by
  induction tiers with
  | nil => rfl
  | cons tier rest ih =>
    show enqueueTier entry.unnumbered (tier.unnumbered :: rest.map Tier.unnumbered) = _
    simp only [enqueueTier]
    by_cases hlt : tier.priority < entry.pod.priority
    · have hlt' : tier.unnumbered.priority < entry.unnumbered.pod.priority := hlt
      rw [if_pos hlt, if_pos hlt']
      rfl
    · have hlt' : ¬ tier.unnumbered.priority < entry.unnumbered.pod.priority := hlt
      rw [if_neg hlt, if_neg hlt']
      by_cases heq : tier.priority = entry.pod.priority
      · have heq' : tier.unnumbered.priority = entry.unnumbered.pod.priority := heq
        rw [if_pos heq, if_pos heq']
        simp [Tier.unnumbered]
      · have heq' : ¬ tier.unnumbered.priority = entry.unnumbered.pod.priority := heq
        rw [if_neg heq, if_neg heq', ih]
        rfl

theorem enqueue_unnumbered (queue : PodQueue) (entry : QueuedPod) :
    queue.unnumbered.enqueue entry.unnumbered = (queue.enqueue entry).unnumbered := by
  simp only [enqueue, unnumbered, enqueueTier_unnumbered]

theorem placeBack_unnumbered (queue : PodQueue) (entry : QueuedPod) :
    queue.unnumbered.placeBack entry.unnumbered = (queue.placeBack entry).unnumbered :=
  queue.enqueue_unnumbered { entry with requeues := Counter.next32 entry.requeues }

theorem pop_unnumbered (queue : PodQueue) :
    queue.unnumbered.pop =
      queue.pop.map fun taken => (taken.1.unnumbered, taken.2.unnumbered) := by
  obtain ⟨tiers, next, count⟩ := queue
  match tiers with
  | [] => rfl
  | ⟨_, []⟩ :: _ => rfl
  | ⟨_, [_]⟩ :: _ => rfl
  | ⟨_, _ :: _ :: _⟩ :: _ => rfl

/-- A new pod gets a number, but all else is as if it got none. -/
theorem push_unnumbered (queue : PodQueue) (pod : Pod) :
    (queue.push pod).unnumbered =
      { queue.unnumbered.enqueue ⟨pod, 0, 0⟩ with
        nextArrival := Counter.next64 queue.nextArrival } := by
  have h := queue.enqueue_unnumbered ⟨pod, queue.nextArrival, 0⟩
  rw [show (⟨pod, 0, 0⟩ : QueuedPod) = QueuedPod.unnumbered ⟨pod, queue.nextArrival, 0⟩ from rfl, h]
  rfl

theorem push_congr {first second : PodQueue} (h : first.unnumbered = second.unnumbered)
    (pod : Pod) : (first.push pod).unnumbered = (second.push pod).unnumbered := by
  have hnext : first.unnumbered.nextArrival = second.unnumbered.nextArrival := by rw [h]
  have hnumber : first.nextArrival = second.nextArrival := hnext
  rw [push_unnumbered, push_unnumbered, h, hnumber]

theorem pushAll_congr {first second : PodQueue} (h : first.unnumbered = second.unnumbered)
    (pods : List Pod) : (first.pushAll pods).unnumbered = (second.pushAll pods).unnumbered := by
  induction pods generalizing first second with
  | nil => exact h
  | cons pod rest ih => exact ih (push_congr h pod)

/-! ### Order -/

theorem enqueueTier_comm_of_lt {low high : QueuedPod}
    (h : low.pod.priority < high.pod.priority) (tiers : List Tier) :
    enqueueTier high (enqueueTier low tiers) = enqueueTier low (enqueueTier high tiers) := by
  have hne : low.pod.priority ≠ high.pod.priority := by grind
  have hnlt : ¬ high.pod.priority < low.pod.priority := by grind
  induction tiers with
  | nil => simp [enqueueTier, h, hne.symm, hnlt]
  | cons tier rest ih =>
    simp only [enqueueTier]
    by_cases hbelow : tier.priority < high.pod.priority
    · -- the higher entry goes in front of this tier, the lower one into it or beside it
      have hother : tier.priority ≠ high.pod.priority := by grind
      grind [enqueueTier]
    · by_cases hsame : tier.priority = high.pod.priority
      · -- the higher entry joins this tier, the lower one goes on
        grind [enqueueTier]
      · have hlow : ¬ tier.priority < low.pod.priority := by grind
        have hnot : tier.priority ≠ low.pod.priority := by grind
        simp only [if_neg hbelow, if_neg hsame, if_neg hlow, if_neg hnot, enqueueTier, ih]

/-- Entries of different priorities go to different tiers. -/
theorem enqueueTier_comm {first second : QueuedPod}
    (h : first.pod.priority ≠ second.pod.priority) (tiers : List Tier) :
    enqueueTier first (enqueueTier second tiers) = enqueueTier second (enqueueTier first tiers) := by
  by_cases hlt : first.pod.priority < second.pod.priority
  · exact (enqueueTier_comm_of_lt hlt tiers).symm
  · have hgt : second.pod.priority < first.pod.priority :=
      Int32.lt_of_le_of_ne (Int32.not_lt.1 hlt) h.symm
    exact enqueueTier_comm_of_lt hgt tiers

theorem push_comm (queue : PodQueue) {first second : Pod} (h : first.priority ≠ second.priority) :
    ((queue.push first).push second).unnumbered = ((queue.push second).push first).unnumbered := by
  have hcomm : enqueueTier ⟨second, 0, 0⟩ (enqueueTier ⟨first, 0, 0⟩ queue.unnumbered.tiers) =
      enqueueTier ⟨first, 0, 0⟩ (enqueueTier ⟨second, 0, 0⟩ queue.unnumbered.tiers) :=
    enqueueTier_comm h.symm _
  simp only [push_unnumbered, enqueue, hcomm]
  rfl

theorem pushAll_push_comm (queue : PodQueue) {pods : List Pod} {last : Pod}
    (h : ∀ pod ∈ pods, pod.priority ≠ last.priority) :
    ((queue.push last).pushAll pods).unnumbered = ((queue.pushAll pods).push last).unnumbered := by
  induction pods generalizing queue with
  | nil => rfl
  | cons pod rest ih =>
    have hswap := queue.push_comm (h pod List.mem_cons_self).symm
    calc (((queue.push last).push pod).pushAll rest).unnumbered
        = (((queue.push pod).push last).pushAll rest).unnumbered := pushAll_congr hswap rest
      _ = (((queue.push pod).pushAll rest).push last).unnumbered :=
        ih (queue.push pod) fun other hmem => h other (List.mem_cons_of_mem _ hmem)

/-- Pods that share no priority can be added in either order. -/
theorem pushAll_comm (queue : PodQueue) {first second : List Pod}
    (h : ∀ pod ∈ first, ∀ other ∈ second, pod.priority ≠ other.priority) :
    ((queue.pushAll first).pushAll second).unnumbered =
      ((queue.pushAll second).pushAll first).unnumbered := by
  induction second generalizing queue with
  | nil => rfl
  | cons other rest ih =>
    have hother : ∀ pod ∈ first, pod.priority ≠ other.priority :=
      fun pod hmem => h pod hmem other List.mem_cons_self
    have hrest : ∀ pod ∈ first, ∀ later ∈ rest, pod.priority ≠ later.priority :=
      fun pod hmem later hlater => h pod hmem later (List.mem_cons_of_mem _ hlater)
    calc (((queue.pushAll first).push other).pushAll rest).unnumbered
        = (((queue.push other).pushAll first).pushAll rest).unnumbered :=
          pushAll_congr (queue.pushAll_push_comm hother).symm rest
      _ = (((queue.push other).pushAll rest).pushAll first).unnumbered := ih (queue.push other) hrest

end PodQueue

end ClusterSim
