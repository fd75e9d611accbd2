import ClusterSim.Proofs.Queue
import Mathlib.Data.List.Induction

/-!
# The queue as a list by priority

Pending pods are meant to form a plain list by descending priority, in which a pod that is added
goes behind all pods of its own priority or a higher one (`PendingList`). The queue keeps them in
tiers, beside a count of the pods. What it relies on is `Tidy`: the tiers descend, none is empty,
and each holds the pods of its own priority. Main statement: `queue_is_priority_list`, which covers
any sequence of operations.
-/

namespace ClusterSim

/-! ### The plain list -/

/-- Pending pods in the order in which they leave, and how many pods have been pushed so far. -/
structure PendingList where
  entries : List QueuedPod
  pushed : Nat

/-- An operation on pending pods. -/
inductive QueueOperation where
  /-- Adds a new pod. -/
  | push (pod : Pod)
  /-- Takes the first pod. -/
  | pop
  /-- Adds an entry again, whatever has become of it meanwhile. -/
  | placeBack (entry : QueuedPod)

/-- What an operation returns. -/
inductive QueueReply where
  /-- The number of the pod that was pushed. -/
  | pushed (arrival : UInt64)
  /-- The entry that was taken, or why there is none. -/
  | popped (outcome : Except QueueError QueuedPod)
  | placedBack
deriving DecidableEq

/-- The number of a pod that was pushed. -/
def QueueReply.arrival? : QueueReply → Option UInt64
  | .pushed arrival => some arrival
  | _ => none

namespace QueueOperation

/-- Whether a new pod is added. -/
def isPush : QueueOperation → Bool
  | .push _ => true
  | _ => false

/-- Performs operations in turn: what they return, and what is there afterwards. -/
def performAll {α : Type} (perform : α → QueueOperation → QueueReply × α) (start : α)
    (operations : List QueueOperation) : List QueueReply × α :=
  operations.foldl
    (fun past operation =>
      let done := perform past.2 operation
      (past.1 ++ [done.1], done.2)) ([], start)

theorem performAll_concat {α : Type} (perform : α → QueueOperation → QueueReply × α) (start : α)
    (operations : List QueueOperation) (operation : QueueOperation) :
    performAll perform start (operations ++ [operation]) =
      ((performAll perform start operations).1 ++
          [(perform (performAll perform start operations).2 operation).1],
        (perform (performAll perform start operations).2 operation).2) := by
  rw [performAll, List.foldl_append]
  rfl

end QueueOperation

namespace PendingList

def empty : PendingList := ⟨[], 0⟩

/-- The entries with one more, behind all of its priority or a higher one and before all of a lower
one. -/
def insertEntry (entry : QueuedPod) (entries : List QueuedPod) : List QueuedPod :=
  entries.takeWhile (fun other => entry.pod.priority ≤ other.pod.priority) ++
    entry :: entries.dropWhile (fun other => entry.pod.priority ≤ other.pod.priority)

/-- The entry when it has been placed back once more, up to the greatest count. -/
def requeue (entry : QueuedPod) : QueuedPod :=
  { entry with requeues := .ofNat (min (entry.requeues.toNat + 1) (UInt32.size - 1)) }

/-- What an operation does to the list. -/
def perform (list : PendingList) : QueueOperation → QueueReply × PendingList
  | .push pod =>
    (.pushed (.ofNat list.pushed),
      { entries := insertEntry ⟨pod, .ofNat list.pushed, 0⟩ list.entries
        pushed := list.pushed + 1 })
  | .pop =>
    match list.entries with
    | [] => (.popped (.error .empty), list)
    | entry :: rest => (.popped (.ok entry), { list with entries := rest })
  | .placeBack entry =>
    (.placedBack, { list with entries := insertEntry (requeue entry) list.entries })

/-- Fewer than `UInt64.size` pods have been pushed, and fewer are held. -/
def HasRoom (list : PendingList) : Prop :=
  list.pushed < UInt64.size ∧ list.entries.length < UInt64.size

theorem insertEntry_append_left {entry : QueuedPod} {before : List QueuedPod}
    (h : ∀ other ∈ before, entry.pod.priority ≤ other.pod.priority) (rest : List QueuedPod) :
    insertEntry entry (before ++ rest) = before ++ insertEntry entry rest := by
  have hbefore : ∀ other ∈ before,
      decide (entry.pod.priority ≤ other.pod.priority) = true := by
    intro other hmem
    exact decide_eq_true (h other hmem)
  rw [insertEntry, List.takeWhile_append_of_pos hbefore, List.dropWhile_append_of_pos hbefore,
    List.append_assoc]
  rfl

theorem insertEntry_of_lower {entry : QueuedPod} {rest : List QueuedPod}
    (h : ∀ other ∈ rest, other.pod.priority < entry.pod.priority) :
    insertEntry entry rest = entry :: rest := by
  cases rest with
  | nil => rfl
  | cons first rest =>
    have hlt := h first List.mem_cons_self
    have hfirst : ¬ entry.pod.priority ≤ first.pod.priority := Int32.not_le.2 hlt
    simp [insertEntry, hfirst]

theorem length_insertEntry (entry : QueuedPod) (entries : List QueuedPod) :
    (insertEntry entry entries).length = entries.length + 1 := by
  have hsplit := congrArg List.length
    (List.takeWhile_append_dropWhile (p := fun other : QueuedPod =>
      decide (entry.pod.priority ≤ other.pod.priority)) (l := entries))
  rw [List.length_append] at hsplit
  rw [insertEntry, List.length_append, List.length_cons]
  omega

/-- An operation adds one pod at most. -/
theorem length_perform_le (list : PendingList) (operation : QueueOperation) :
    (list.perform operation).2.pushed ≤ list.pushed + 1 ∧
      (list.perform operation).2.entries.length ≤ list.entries.length + 1 := by
  cases operation with
  | push pod => simp [perform, length_insertEntry]
  | placeBack entry => simp [perform, length_insertEntry]
  | pop =>
    cases hentries : list.entries with
    | nil => simp [perform, hentries]
    | cons entry rest =>
      simp only [perform, hentries, List.length_cons]
      omega

/-- The limits hold all the while that operations are performed. -/
def KeepsRoom (operations : List QueueOperation) : Prop :=
  ∀ before, before <+: operations →
    (QueueOperation.performAll perform empty before).2.HasRoom

theorem KeepsRoom.of_concat {operations : List QueueOperation} {operation : QueueOperation}
    (h : KeepsRoom (operations ++ [operation])) : KeepsRoom operations :=
  fun before hinitial => h before (hinitial.trans (List.prefix_append operations [operation]))

theorem KeepsRoom.hasRoom {operations : List QueueOperation} (h : KeepsRoom operations) :
    (QueueOperation.performAll perform empty operations).2.HasRoom :=
  h operations (List.prefix_refl operations)

theorem hasRoom_performAll {operations : List QueueOperation}
    (h : operations.length < UInt64.size) :
    (QueueOperation.performAll perform empty operations).2.HasRoom := by
  have hle : (QueueOperation.performAll perform empty operations).2.pushed ≤ operations.length ∧
      (QueueOperation.performAll perform empty operations).2.entries.length ≤
        operations.length := by
    clear h
    induction operations using List.reverseRecOn with
    | nil => exact ⟨Nat.le_refl 0, Nat.le_refl 0⟩
    | append_singleton operations operation ih =>
      have hstep := length_perform_le
        (QueueOperation.performAll perform empty operations).2 operation
      rw [QueueOperation.performAll_concat, List.length_append, List.length_singleton]
      simp only
      omega
  unfold HasRoom
  omega

/-- Fewer than `UInt64.size` operations keep room. -/
theorem keepsRoom_of_length_lt {operations : List QueueOperation}
    (h : operations.length < UInt64.size) : KeepsRoom operations := by
  intro before hinitial
  exact hasRoom_performAll (Nat.lt_of_le_of_lt hinitial.length_le h)

/-- The pods that are pushed get the numbers from 0 on, one after the other. -/
theorem arrivals_performAll {operations : List QueueOperation} (hroom : KeepsRoom operations) :
    (QueueOperation.performAll perform empty operations).2.pushed =
        operations.countP (·.isPush) ∧
      ((QueueOperation.performAll perform empty operations).1.filterMap
          QueueReply.arrival?).map UInt64.toNat =
        List.range (operations.countP (·.isPush)) := by
  induction operations using List.reverseRecOn with
  | nil => exact ⟨rfl, rfl⟩
  | append_singleton operations operation ih =>
    obtain ⟨hpushed, harrivals⟩ := ih hroom.of_concat
    have hbound := hroom.of_concat.hasRoom.1
    rw [hpushed] at hbound
    rw [QueueOperation.performAll_concat, List.filterMap_append, List.map_append, harrivals,
      List.countP_append, List.countP_singleton]
    cases operation with
    | push pod =>
      have hnumber : (UInt64.ofNat (operations.countP (·.isPush))).toNat =
          operations.countP (·.isPush) := UInt64.toNat_ofNat_of_lt' hbound
      refine ⟨congrArg (· + 1) hpushed, ?_⟩
      show List.range _ ++
        [(UInt64.ofNat (QueueOperation.performAll perform empty operations).2.pushed).toNat] =
          List.range (operations.countP (·.isPush) + 1)
      rw [hpushed, hnumber, List.range_succ]
    | placeBack entry => exact ⟨hpushed, List.append_nil _⟩
    | pop =>
      cases hentries : (QueueOperation.performAll perform empty operations).2.entries with
      | nil =>
        simp only [perform, hentries]
        exact ⟨hpushed, List.append_nil _⟩
      | cons entry rest =>
        simp only [perform, hentries]
        exact ⟨hpushed, List.append_nil _⟩

end PendingList

/-! ### Tiers -/

/-- A tier as the queue keeps it: it holds pods, all of its own priority. -/
def Tier.Sound (tier : Tier) : Prop :=
  tier.waiting ≠ [] ∧ ∀ entry ∈ tier.waiting, entry.pod.priority = tier.priority

namespace PodQueue

/-- Tiers as the queue keeps them: by descending priority, each of them sound. -/
def Tidy (tiers : List Tier) : Prop :=
  tiers.Pairwise (fun tier later => later.priority < tier.priority) ∧ ∀ tier ∈ tiers, tier.Sound

theorem tidy_nil : Tidy [] := ⟨.nil, fun _ hmem => absurd hmem List.not_mem_nil⟩

theorem Tidy.tail {tier : Tier} {rest : List Tier} (h : Tidy (tier :: rest)) : Tidy rest :=
  ⟨(List.pairwise_cons.1 h.1).2, fun other hmem => h.2 other (List.mem_cons_of_mem _ hmem)⟩

theorem Tidy.cons {tier : Tier} {rest : List Tier} (h : Tidy rest) (hsound : tier.Sound)
    (hlower : ∀ later ∈ rest, later.priority < tier.priority) : Tidy (tier :: rest) := by
  refine ⟨List.pairwise_cons.2 ⟨hlower, h.1⟩, fun other hmem => ?_⟩
  rcases List.mem_cons.1 hmem with rfl | hmem
  · exact hsound
  · exact h.2 other hmem

/-- The priority of a pod is that of its tier. -/
theorem Tidy.exists_tier {tiers : List Tier} (h : Tidy tiers) {entry : QueuedPod}
    (hmem : entry ∈ tiers.flatMap (·.waiting)) :
    ∃ tier ∈ tiers, entry.pod.priority = tier.priority := by
  obtain ⟨tier, htier, hentry⟩ := List.mem_flatMap.1 hmem
  exact ⟨tier, htier, (h.2 tier htier).2 entry hentry⟩

/-- All pods behind the first tier have a lower priority. -/
theorem Tidy.lower_of_mem_tail {tier : Tier} {rest : List Tier} (h : Tidy (tier :: rest))
    {entry : QueuedPod} (hmem : entry ∈ rest.flatMap (·.waiting)) :
    entry.pod.priority < tier.priority := by
  obtain ⟨other, hother, heq⟩ := h.tail.exists_tier hmem
  rw [heq]
  exact (List.pairwise_cons.1 h.1).1 other hother

theorem sound_singleton (entry : QueuedPod) : Tier.Sound ⟨entry.pod.priority, [entry]⟩ := by
  refine ⟨List.cons_ne_nil _ _, fun other hmem => ?_⟩
  rw [List.mem_singleton.1 hmem]

/-- A tier to which an entry has been added is one of those before, or that of the entry. -/
theorem priority_of_mem_enqueueTier {entry : QueuedPod} {tiers : List Tier} {tier : Tier}
    (hmem : tier ∈ enqueueTier entry tiers) :
    tier.priority = entry.pod.priority ∨ ∃ other ∈ tiers, tier.priority = other.priority := by
  induction tiers with
  | nil =>
    rw [List.mem_singleton.1 hmem]
    exact .inl rfl
  | cons first rest ih =>
    unfold enqueueTier at hmem
    split at hmem
    · rcases List.mem_cons.1 hmem with rfl | hmem
      · exact .inl rfl
      · exact .inr ⟨tier, hmem, rfl⟩
    · split at hmem
      · rename_i heq
        rcases List.mem_cons.1 hmem with rfl | hmem
        · exact .inl heq
        · exact .inr ⟨tier, List.mem_cons_of_mem _ hmem, rfl⟩
      · rcases List.mem_cons.1 hmem with rfl | hmem
        · exact .inr ⟨tier, List.mem_cons_self, rfl⟩
        · rcases ih hmem with heq | ⟨other, hother, heq⟩
          · exact .inl heq
          · exact .inr ⟨other, List.mem_cons_of_mem _ hother, heq⟩

theorem Tidy.enqueueTier {tiers : List Tier} (h : Tidy tiers) (entry : QueuedPod) :
    Tidy (enqueueTier entry tiers) := by
  induction tiers with
  | nil => exact tidy_nil.cons (sound_singleton entry) fun _ hmem => absurd hmem List.not_mem_nil
  | cons first rest ih =>
    obtain ⟨hbelow, -⟩ := List.pairwise_cons.1 h.1
    obtain ⟨hfirst, hown⟩ := h.2 first List.mem_cons_self
    unfold PodQueue.enqueueTier
    split
    · rename_i hlt
      refine h.cons (sound_singleton entry) fun later hmem => ?_
      rcases List.mem_cons.1 hmem with rfl | hmem
      · exact hlt
      · exact Int32.lt_trans (hbelow later hmem) hlt
    · split
      · rename_i heq
        refine h.tail.cons ⟨?_, fun other hmem => ?_⟩ hbelow
        · exact List.append_ne_nil_of_left_ne_nil hfirst _
        · rcases List.mem_append.1 hmem with hmem | hmem
          · exact hown other hmem
          · rw [List.mem_singleton.1 hmem]
            exact heq.symm
      · rename_i hnlt hne
        refine (ih h.tail).cons ⟨hfirst, hown⟩ fun later hmem => ?_
        rcases priority_of_mem_enqueueTier hmem with heq | ⟨other, hother, heq⟩
        · rw [heq]
          grind
        · rw [heq]
          exact hbelow other hother

/-- In tidy tiers an entry is added where it belongs in the list. -/
theorem Tidy.flatMap_enqueueTier {tiers : List Tier} (h : Tidy tiers) (entry : QueuedPod) :
    (PodQueue.enqueueTier entry tiers).flatMap (·.waiting) =
      PendingList.insertEntry entry (tiers.flatMap (·.waiting)) := by
  induction tiers with
  | nil => rfl
  | cons first rest ih =>
    have hown := (h.2 first List.mem_cons_self).2
    unfold PodQueue.enqueueTier
    split
    · rename_i hlt
      have hlower : ∀ other ∈ (first :: rest).flatMap (·.waiting),
          other.pod.priority < entry.pod.priority := by
        intro other hmem
        rw [List.flatMap_cons] at hmem
        rcases List.mem_append.1 hmem with hmem | hmem
        · exact hown other hmem ▸ hlt
        · exact Int32.lt_trans (h.lower_of_mem_tail hmem) hlt
      exact (PendingList.insertEntry_of_lower hlower).symm
    · split
      · rename_i heq
        have hlower : ∀ other ∈ rest.flatMap (·.waiting),
            other.pod.priority < entry.pod.priority := by
          intro other hmem
          exact heq ▸ h.lower_of_mem_tail hmem
        rw [List.flatMap_cons, List.flatMap_cons, PendingList.insertEntry_append_left,
          PendingList.insertEntry_of_lower hlower, List.append_assoc]
        · rfl
        · intro other hmem
          rw [hown other hmem, heq]
          exact Int32.le_refl _
      · rename_i hnlt hne
        rw [List.flatMap_cons, List.flatMap_cons, ih h.tail, PendingList.insertEntry_append_left]
        intro other hmem
        rw [hown other hmem]
        exact Int32.not_lt.1 hnlt

/-- The pods of tidy tiers leave by descending priority. -/
theorem Tidy.sorted {tiers : List Tier} (h : Tidy tiers) :
    (tiers.flatMap (·.waiting)).Pairwise fun entry later =>
      later.pod.priority ≤ entry.pod.priority := by
  induction tiers with
  | nil => exact .nil
  | cons first rest ih =>
    have hown := (h.2 first List.mem_cons_self).2
    rw [List.flatMap_cons, List.pairwise_append]
    refine ⟨?_, ih h.tail, fun entry hentry later hlater => ?_⟩
    · refine List.pairwise_of_forall_mem_list fun entry hentry later hlater => ?_
      rw [hown entry hentry, hown later hlater]
      exact Int32.le_refl _
    · rw [hown entry hentry]
      exact Int32.le_of_lt (h.lower_of_mem_tail hlater)

/-- Nothing can be taken from tidy tiers exactly if they hold nothing; else it is the first pod. -/
theorem pop_cases {queue : PodQueue} (h : Tidy queue.tiers) :
    (queue.toList = [] ∧ queue.pop = .error .empty) ∨
      ∃ entry rest, queue.toList = entry :: rest.toList ∧ queue.pop = .ok (entry, rest) ∧
        Tidy rest.tiers ∧ rest.nextArrival = queue.nextArrival ∧
        rest.count = Counter.previous64 queue.count := by
  obtain ⟨tiers, next, count⟩ := queue
  match tiers, h with
  | [], _ => exact .inl ⟨rfl, rfl⟩
  | ⟨priority, []⟩ :: rest, h => exact absurd rfl (h.2 _ List.mem_cons_self).1
  | ⟨priority, [entry]⟩ :: rest, h => exact .inr ⟨entry, _, rfl, rfl, h.tail, rfl, rfl⟩
  | ⟨priority, entry :: second :: waiting⟩ :: rest, h =>
    have hown := (h.2 _ List.mem_cons_self).2
    refine .inr ⟨entry, _, rfl, rfl, h.tail.cons ⟨List.cons_ne_nil _ _, ?_⟩ ?_, rfl, rfl⟩
    · intro other hmem
      exact hown other (List.mem_cons_of_mem _ hmem)
    · exact (List.pairwise_cons.1 h.1).1

/-! ### The queue shows the list -/

/-- A queue stands for a list. -/
structure Shows (queue : PodQueue) (list : PendingList) : Prop where
  tidy : Tidy queue.tiers
  toList_eq : queue.toList = list.entries
  count_eq : queue.count.toNat = list.entries.length
  arrival_eq : queue.nextArrival.toNat = list.pushed

theorem shows_empty : empty.Shows .empty := ⟨tidy_nil, rfl, rfl, rfl⟩

/-- What an operation does to the queue. -/
def perform (queue : PodQueue) : QueueOperation → QueueReply × PodQueue
  | .push pod => (.pushed queue.nextArrival, queue.push pod)
  | .pop =>
    match queue.pop with
    | .ok (entry, rest) => (.popped (.ok entry), rest)
    | .error error => (.popped (.error error), queue)
  | .placeBack entry => (.placedBack, queue.placeBack entry)

theorem Shows.enqueue {queue : PodQueue} {list : PendingList} (h : queue.Shows list)
    (entry : QueuedPod)
    (hroom : (PendingList.insertEntry entry list.entries).length < UInt64.size) :
    (queue.enqueue entry).Shows
      { list with entries := PendingList.insertEntry entry list.entries } := by
  refine ⟨h.tidy.enqueueTier entry, ?_, ?_, h.arrival_eq⟩
  · rw [← h.toList_eq]
    exact h.tidy.flatMap_enqueueTier entry
  · show (Counter.next64 queue.count).toNat = (PendingList.insertEntry entry list.entries).length
    rw [PendingList.length_insertEntry] at hroom ⊢
    rw [Counter.toNat_next64, h.count_eq]
    omega

/-- Every operation returns the same for the queue and for its list, and keeps them together. -/
theorem Shows.perform {queue : PodQueue} {list : PendingList} (h : queue.Shows list)
    {operation : QueueOperation} (hroom : (list.perform operation).2.HasRoom) :
    (queue.perform operation).1 = (list.perform operation).1 ∧
      (queue.perform operation).2.Shows (list.perform operation).2 := by
  cases operation with
  | push pod =>
    have hnumber : queue.nextArrival = .ofNat list.pushed := by
      rw [← h.arrival_eq, UInt64.ofNat_toNat]
    have hpushed : list.pushed + 1 < UInt64.size := hroom.1
    have hshows := h.enqueue ⟨pod, .ofNat list.pushed, 0⟩ hroom.2
    refine ⟨congrArg QueueReply.pushed hnumber, ?_⟩
    show PodQueue.Shows { queue.enqueue ⟨pod, queue.nextArrival, 0⟩ with
      nextArrival := Counter.next64 queue.nextArrival } _
    refine ⟨hnumber ▸ hshows.tidy, hnumber ▸ hshows.toList_eq, hshows.count_eq, ?_⟩
    show (Counter.next64 queue.nextArrival).toNat = list.pushed + 1
    rw [Counter.toNat_next64, h.arrival_eq]
    omega
  | placeBack entry =>
    have hcount : Counter.next32 entry.requeues =
        .ofNat (min (entry.requeues.toNat + 1) (UInt32.size - 1)) := by
      refine UInt32.toNat_inj.1 ?_
      have hlt : min (entry.requeues.toNat + 1) (UInt32.size - 1) < UInt32.size := by
        unfold UInt32.size
        omega
      rw [Counter.toNat_next32, UInt32.toNat_ofNat_of_lt' hlt]
    have hentry : { entry with requeues := Counter.next32 entry.requeues } =
        PendingList.requeue entry := by
      rw [PendingList.requeue, hcount]
    refine ⟨rfl, ?_⟩
    show (queue.enqueue { entry with requeues := Counter.next32 entry.requeues }).Shows _
    rw [hentry]
    exact h.enqueue (PendingList.requeue entry) hroom.2
  | pop =>
    have hlist := h.toList_eq
    have hcount := h.count_eq
    unfold PodQueue.perform PendingList.perform
    rcases pop_cases h.tidy with ⟨hnil, hpop⟩ | ⟨entry, rest, hcons, hpop, htidy, hnext, hrest⟩
    · rw [hnil] at hlist
      simp only [hpop, ← hlist]
      exact ⟨trivial, h⟩
    · rw [hcons] at hlist
      simp only [hpop, ← hlist]
      refine ⟨trivial, htidy, rfl, ?_, hnext ▸ h.arrival_eq⟩
      rw [← hlist, List.length_cons] at hcount
      rw [hrest, Counter.toNat_previous64, hcount]
      rfl

theorem shows_performAll {operations : List QueueOperation}
    (hroom : PendingList.KeepsRoom operations) :
    (QueueOperation.performAll perform empty operations).1 =
        (QueueOperation.performAll PendingList.perform .empty operations).1 ∧
      (QueueOperation.performAll perform empty operations).2.Shows
        (QueueOperation.performAll PendingList.perform .empty operations).2 := by
  induction operations using List.reverseRecOn with
  | nil => exact ⟨rfl, shows_empty⟩
  | append_singleton operations operation ih =>
    obtain ⟨hreplies, hshows⟩ := ih hroom.of_concat
    have hlast := hroom.hasRoom
    rw [QueueOperation.performAll_concat] at hlast
    obtain ⟨hreply, hafter⟩ := hshows.perform hlast
    rw [QueueOperation.performAll_concat, QueueOperation.performAll_concat, hreplies, hreply]
    exact ⟨rfl, hafter⟩

end PodQueue

/-- Whatever operations are performed on an empty queue, while fewer than `UInt64.size` pods have
been pushed and are held: each returns what it returns for the plain list, the pods of the queue are
those of the list in the same order, by descending priority, and they are counted; nothing can be
taken exactly if the list is empty; and the pods that are pushed are numbered from 0 without gap. -/
theorem queue_is_priority_list {operations : List QueueOperation}
    (hroom : PendingList.KeepsRoom operations) :
    let replies := (QueueOperation.performAll PodQueue.perform .empty operations).1
    let queue := (QueueOperation.performAll PodQueue.perform .empty operations).2
    let list := (QueueOperation.performAll PendingList.perform .empty operations).2
    replies = (QueueOperation.performAll PendingList.perform .empty operations).1 ∧
    queue.toList = list.entries ∧
    queue.size = list.entries.length ∧
    (queue.isEmpty ↔ list.entries = []) ∧
    (queue.pop = .error .empty ↔ list.entries = []) ∧
    (queue.perform .pop = (.popped (.error .empty), queue) ↔ list.entries = []) ∧
    (queue.toList.Pairwise fun entry later => later.pod.priority ≤ entry.pod.priority) ∧
    (replies.filterMap QueueReply.arrival?).map UInt64.toNat =
      List.range (operations.countP (·.isPush)) := by
  intro replies queue list
  obtain ⟨hreplies, hshows⟩ := PodQueue.shows_performAll hroom
  have hpop : queue.pop = .error .empty ↔ list.entries = [] := by
    rw [← hshows.toList_eq]
    rcases PodQueue.pop_cases hshows.tidy with ⟨hnil, hpop⟩ | ⟨entry, rest, hcons, hpop, -⟩
    · exact ⟨fun _ => hnil, fun _ => hpop⟩
    · constructor
      · intro herror
        cases hpop.symm.trans herror
      · intro hnil
        cases hcons.symm.trans hnil
  refine ⟨hreplies, hshows.toList_eq, hshows.count_eq, ?_, hpop, ?_, hshows.tidy.sorted, ?_⟩
  · have hcount := hshows.count_eq
    rw [← List.length_eq_zero_iff, ← hcount, PodQueue.isEmpty, decide_eq_true_iff]
    exact UInt64.toNat_inj.symm
  · rw [← hpop]
    cases htaken : queue.pop with
    | ok taken => simp [PodQueue.perform, htaken]
    | error error => simp [PodQueue.perform, htaken]
  · rw [show replies = _ from hreplies]
    exact (PendingList.arrivals_performAll hroom).2

/-- An entry that comes back with a lower priority and the greatest count goes behind the pod that
was pushed first, and ahead of one that is pushed later. -/
theorem queue_is_priority_list_lowered_entry :
    let job : Pod := .new ⟨1⟩ "job" (.ofList []) 1
    let web : Pod := .new ⟨2⟩ "web" (.ofList []) 5
    let lowered : QueuedPod := ⟨{ web with priority := 1 }, 1, 4294967295⟩
    let operations := [.push job, .push web, .pop, .placeBack lowered, .push job]
    PendingList.KeepsRoom operations ∧
    (QueueOperation.performAll PodQueue.perform .empty operations).2.toList =
      [⟨job, 0, 0⟩, lowered, ⟨job, 2, 0⟩] := by
  intro job web lowered operations
  have hroom : PendingList.KeepsRoom operations :=
    PendingList.keepsRoom_of_length_lt (by decide)
  exact ⟨hroom, (queue_is_priority_list hroom).2.1.trans (by decide)⟩

end ClusterSim
