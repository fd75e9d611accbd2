import ClusterSim.Proofs.Tick.Precedence
import Mathlib.Algebra.GroupWithZero.Nat

/-!
# The counters of the queue

A queue counts the pods it holds and those pushed into it. Both counters are exact as long as fewer
than `UInt64.size` pods are submitted (`Course.counted`), since no more pods are pending than have
been submitted. So the queue of a tick is what the plain list of pending pods becomes.
-/

namespace ClusterSim

/-- The list when new pods have been pushed from left to right. -/
def PendingList.pushAll (list : PendingList) (pods : List Pod) : PendingList :=
  pods.foldl (fun list pod => (list.perform (.push pod)).2) list

namespace PodQueue

/-- So many pods have been pushed into the queue, and its counters are exact. -/
structure Counted (queue : PodQueue) (submitted : Nat) : Prop where
  shows : queue.Shows ⟨queue.toList, submitted⟩
  length_le : queue.toList.length ≤ submitted

theorem counted_empty : empty.Counted 0 := ⟨shows_empty, Nat.le_refl 0⟩

/-- A queue that shows a list with no more pods than have been pushed is counted. -/
theorem Shows.counted {queue : PodQueue} {list : PendingList} (h : queue.Shows list)
    (hle : list.entries.length ≤ list.pushed) : queue.Counted list.pushed := by
  constructor
  · rw [h.toList_eq]
    exact h
  · rw [h.toList_eq]
    exact hle

namespace Counted

variable {queue : PodQueue} {submitted : Nat}

theorem size_eq (h : queue.Counted submitted) : queue.size = queue.toList.length := h.shows.count_eq

theorem tidy (h : queue.Counted submitted) : Tidy queue.tiers := h.shows.tidy

/-- A pod that is pushed gets the next number. -/
theorem push (h : queue.Counted submitted) (pod : Pod) (hroom : submitted + 1 < UInt64.size) :
    (queue.push pod).Counted (submitted + 1) ∧
      (queue.push pod).toList =
        PendingList.insertEntry ⟨pod, .ofNat submitted, 0⟩ queue.toList := by
  have hle := h.length_le
  have hlength : (PendingList.insertEntry ⟨pod, .ofNat submitted, 0⟩ queue.toList).length =
      queue.toList.length + 1 := PendingList.length_insertEntry _ _
  have hbounds : PendingList.HasRoom
      ((PendingList.mk queue.toList submitted).perform (.push pod)).2 := by
    refine ⟨hroom, ?_⟩
    show (PendingList.insertEntry ⟨pod, .ofNat submitted, 0⟩ queue.toList).length < _
    omega
  have hshows := (h.shows.perform hbounds).2
  refine ⟨hshows.counted ?_, hshows.toList_eq⟩
  show (PendingList.insertEntry ⟨pod, .ofNat submitted, 0⟩ queue.toList).length ≤ submitted + 1
  omega

/-- Pods that are pushed are inserted one by one. -/
theorem pushAll (h : queue.Counted submitted) (pods : List Pod)
    (hroom : submitted + pods.length < UInt64.size) :
    (queue.pushAll pods).Counted (submitted + pods.length) ∧
      (queue.pushAll pods).toList =
        ((PendingList.mk queue.toList submitted).pushAll pods).entries := by
  induction pods generalizing queue submitted with
  | nil => exact ⟨h, rfl⟩
  | cons pod rest ih =>
    rw [List.length_cons] at hroom ⊢
    obtain ⟨hone, hlist⟩ := h.push pod (by omega)
    obtain ⟨hcounted, hrest⟩ := ih hone (by omega)
    rw [Nat.add_assoc, Nat.add_comm 1] at hcounted
    refine ⟨hcounted, ?_⟩
    show ((queue.push pod).pushAll rest).toList = _
    rw [hrest, hlist]
    rfl

/-- The pod that is taken makes room for one that goes back. -/
theorem of_pop (h : queue.Counted submitted) {entry : QueuedPod} {rest : PodQueue}
    (hpop : queue.pop = .ok (entry, rest)) (hroom : submitted < UInt64.size) :
    rest.Counted submitted ∧ rest.toList.length + 1 ≤ submitted := by
  have hlist := toList_of_pop hpop
  have hle := h.length_le
  rw [hlist, List.length_cons] at hle
  have hqueue : (queue.perform .pop).2 = rest := by
    unfold perform
    rw [hpop]
  have hentries : ((PendingList.mk queue.toList submitted).perform .pop).2 =
      ⟨rest.toList, submitted⟩ := by
    rw [hlist]
    rfl
  have hbounds : PendingList.HasRoom
      ((PendingList.mk queue.toList submitted).perform .pop).2 := by
    rw [hentries]
    exact ⟨hroom, by show rest.toList.length < _; omega⟩
  have hshows := (h.shows.perform hbounds).2
  rw [hqueue, hentries] at hshows
  exact ⟨⟨hshows, by omega⟩, hle⟩

theorem placeBack (h : queue.Counted submitted) (entry : QueuedPod)
    (hle : queue.toList.length + 1 ≤ submitted) (hroom : submitted < UInt64.size) :
    (queue.placeBack entry).Counted submitted := by
  have hlength : (PendingList.insertEntry (PendingList.requeue entry) queue.toList).length =
      queue.toList.length + 1 := PendingList.length_insertEntry _ _
  have hbounds : PendingList.HasRoom
      ((PendingList.mk queue.toList submitted).perform (.placeBack entry)).2 := by
    refine ⟨hroom, ?_⟩
    show (PendingList.insertEntry (PendingList.requeue entry) queue.toList).length < _
    omega
  refine (h.shows.perform hbounds).2.counted ?_
  show (PendingList.insertEntry (PendingList.requeue entry) queue.toList).length ≤ submitted
  omega

end Counted

end PodQueue

/-- A placement takes one pod, and puts it back or not. -/
theorem Cluster.Placed.counted {cluster after : Cluster} {now : Instant}
    {entry : Option QueuedPod} {placement : Except TickError Placement} {submitted : Nat}
    (hplaced : Placed cluster now after entry placement) (h : cluster.queue.Counted submitted)
    (hroom : submitted < UInt64.size) : after.queue.Counted submitted := by
  cases hplaced with
  | idle => exact h
  | requeued hpop =>
    obtain ⟨hrest, hle⟩ := h.of_pop hpop hroom
    exact hrest.placeBack _ hle hroom
  | bound hpop => exact (h.of_pop hpop hroom).1
  | refused hpop => exact (h.of_pop hpop hroom).1

/-- As long as fewer than `UInt64.size` pods are submitted the counters of the queue are exact. -/
theorem Course.counted {nodes : List Node} {strategy : Strategy} {records : List TickRecord}
    {cluster : Cluster} (h : Course (.new nodes strategy) records cluster)
    (hroom : (submissions records).length < UInt64.size) :
    cluster.queue.Counted (submissions records).length := by
  induction h using lawful_induction with
  | start => exact PodQueue.counted_empty
  | @next records record _ lawful _ ih =>
    rw [submissions_append, submissions_singleton, List.length_append] at hroom ⊢
    have hfilled := ((ih (by omega)).pushAll _ hroom).1
    exact lawful.after_of
      (P := fun after => after.queue.Counted _) hfilled fun hplaced => hplaced.counted hfilled hroom

end ClusterSim
