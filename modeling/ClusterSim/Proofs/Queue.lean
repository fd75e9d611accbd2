import ClusterSim.Queue

/-!
# The queue as a collection

What each operation does to the pods that are pending, whatever their order.
-/

namespace ClusterSim.PodQueue

/-- The pending pods in the order in which they leave. -/
def pods (queue : PodQueue) : List Pod := queue.toList.map QueuedPod.pod

theorem flatMap_enqueueTier_perm (entry : QueuedPod) (tiers : List Tier) :
    ((enqueueTier entry tiers).flatMap (·.waiting)).Perm (entry :: tiers.flatMap (·.waiting)) := by
  induction tiers with
  | nil => exact .refl _
  | cons tier rest ih =>
    unfold enqueueTier
    split
    · exact .refl _
    · split
      · rw [List.flatMap_cons, List.flatMap_cons, List.append_assoc]
        exact List.perm_middle
      · rw [List.flatMap_cons, List.flatMap_cons]
        exact (ih.append_left tier.waiting).trans List.perm_middle

/-- An entry that is added joins those that are pending. -/
theorem toList_enqueue_perm (queue : PodQueue) (entry : QueuedPod) :
    (queue.enqueue entry).toList.Perm (entry :: queue.toList) :=
  flatMap_enqueueTier_perm entry queue.tiers

theorem pods_push_perm (queue : PodQueue) (pod : Pod) :
    (queue.push pod).pods.Perm (pod :: queue.pods) :=
  (queue.toList_enqueue_perm ⟨pod, queue.nextArrival, 0⟩).map QueuedPod.pod

/-- An entry is either as before, or that of a pod that has just been pushed. -/
theorem mem_toList_pushAll {queue : PodQueue} {new : List Pod} {entry : QueuedPod}
    (hmem : entry ∈ (queue.pushAll new).toList) : entry ∈ queue.toList ∨ entry.requeues = 0 := by
  induction new generalizing queue with
  | nil => exact .inl hmem
  | cons pod rest ih =>
    have hpush : (queue.push pod).toList.Perm (⟨pod, queue.nextArrival, 0⟩ :: queue.toList) :=
      queue.toList_enqueue_perm _
    have hrest : entry ∈ ((queue.push pod).pushAll rest).toList := hmem
    rcases ih hrest with hpushed | hnew
    · rcases List.mem_cons.1 (hpush.mem_iff.1 hpushed) with rfl | hold
      · exact .inr rfl
      · exact .inl hold
    · exact .inr hnew

theorem pods_pushAll_perm (queue : PodQueue) (new : List Pod) :
    (queue.pushAll new).pods.Perm (new ++ queue.pods) := by
  induction new generalizing queue with
  | nil => exact .refl _
  | cons pod rest ih =>
    show ((queue.push pod).pushAll rest).pods.Perm (pod :: (rest ++ queue.pods))
    exact (ih _).trans (((queue.pods_push_perm pod).append_left rest).trans List.perm_middle)

theorem pods_placeBack_perm (queue : PodQueue) (entry : QueuedPod) :
    (queue.placeBack entry).pods.Perm (entry.pod :: queue.pods) :=
  (queue.toList_enqueue_perm _).map QueuedPod.pod

/-- The entry that is taken is the first. -/
theorem toList_of_pop {queue rest : PodQueue} {entry : QueuedPod}
    (h : queue.pop = .ok (entry, rest)) : queue.toList = entry :: rest.toList := by
  obtain ⟨tiers, next, count⟩ := queue
  match tiers, h with
  | ⟨_, [_]⟩ :: _, rfl => rfl
  | ⟨_, _ :: _ :: _⟩ :: _, rfl => rfl

/-- What is taken is the head of the list, and what stays is its tail. -/
theorem of_pop_of_cons {queue rest : PodQueue} {entry first : QueuedPod} {others : List QueuedPod}
    (hlist : queue.toList = first :: others) (hpop : queue.pop = .ok (entry, rest)) :
    entry = first ∧ rest.toList = others :=
  List.cons.inj ((toList_of_pop hpop).symm.trans hlist)

theorem pods_of_pop {queue rest : PodQueue} {entry : QueuedPod}
    (h : queue.pop = .ok (entry, rest)) : queue.pods = entry.pod :: rest.pods := by
  rw [pods, toList_of_pop h]
  rfl

end ClusterSim.PodQueue
