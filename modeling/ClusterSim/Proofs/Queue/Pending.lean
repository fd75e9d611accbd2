import ClusterSim.Proofs.Queue.Order

/-!
# The pending pods of a tidy queue

On tidy tiers every operation of the queue is one on the plain list of pending pods. A pod that is
added splits this list: all pods before it have its priority or a higher one, all pods behind it
have a lower one (`exists_insertEntry_split`).
-/

namespace ClusterSim

/-! ### Counting how often an entry was placed back -/

namespace QueuedPod

/-- The entry when it has been placed back so many times more, up to the greatest count. -/
def requeuedBy (entry : QueuedPod) (times : Nat) : QueuedPod :=
  { entry with requeues := .ofNat (min (entry.requeues.toNat + times) (UInt32.size - 1)) }

theorem toNat_requeues_requeuedBy (entry : QueuedPod) (times : Nat) :
    (entry.requeuedBy times).requeues.toNat =
      min (entry.requeues.toNat + times) (UInt32.size - 1) := by
  have hlt : min (entry.requeues.toNat + times) (UInt32.size - 1) < UInt32.size := by
    unfold UInt32.size
    omega
  exact UInt32.toNat_ofNat_of_lt' hlt

theorem ext_requeues {a b : QueuedPod} (hpod : a.pod = b.pod) (harrival : a.arrival = b.arrival)
    (hcount : a.requeues.toNat = b.requeues.toNat) : a = b := by
  cases a
  cases b
  simp_all [UInt32.toNat_inj]

@[simp] theorem requeuedBy_zero (entry : QueuedPod) : entry.requeuedBy 0 = entry := by
  refine ext_requeues rfl rfl ?_
  have hlt := entry.requeues.toNat_lt
  rw [toNat_requeues_requeuedBy]
  unfold UInt32.size
  omega

theorem requeuedBy_requeuedBy (entry : QueuedPod) (times more : Nat) :
    (entry.requeuedBy times).requeuedBy more = entry.requeuedBy (times + more) := by
  refine ext_requeues rfl rfl ?_
  simp only [toNat_requeues_requeuedBy]
  omega

/-- An entry that has been placed back counts this. -/
theorem requeues_requeuedBy_ne_zero (entry : QueuedPod) {times : Nat} (h : times ≠ 0) :
    (entry.requeuedBy times).requeues ≠ 0 := by
  intro hzero
  have hcount := entry.toNat_requeues_requeuedBy times
  rw [hzero, UInt32.toNat_zero] at hcount
  unfold UInt32.size at hcount
  omega

theorem requeues_requeuedBy_one (entry : QueuedPod) :
    (entry.requeuedBy 1).requeues = Counter.next32 entry.requeues := by
  refine UInt32.toNat_inj.1 ?_
  rw [toNat_requeues_requeuedBy, Counter.toNat_next32]

end QueuedPod

/-! ### Insertion -/

namespace PendingList

/-- In a list by descending priority an entry goes behind all that have its priority or a higher
one, and before all that have a lower one. -/
theorem exists_insertEntry_split {entries : List QueuedPod}
    (h : entries.Pairwise fun entry later => later.pod.priority ≤ entry.pod.priority)
    (entry : QueuedPod) :
    ∃ before behind, entries = before ++ behind ∧
      insertEntry entry entries = before ++ entry :: behind ∧
      (∀ other ∈ before, entry.pod.priority ≤ other.pod.priority) ∧
      ∀ other ∈ behind, other.pod.priority < entry.pod.priority := by
  induction entries with
  | nil => exact ⟨[], [], rfl, rfl, by simp, by simp⟩
  | cons first rest ih =>
    obtain ⟨hfirst, hrest⟩ := List.pairwise_cons.1 h
    by_cases hle : entry.pod.priority ≤ first.pod.priority
    · obtain ⟨before, behind, hsplit, hinsert, hbefore, hbehind⟩ := ih hrest
      refine ⟨first :: before, behind, by rw [hsplit]; rfl, ?_, ?_, hbehind⟩
      · have hhead : ∀ other ∈ [first], entry.pod.priority ≤ other.pod.priority := by simp [hle]
        rw [← List.singleton_append, insertEntry_append_left hhead, hinsert]
        rfl
      · intro other hmem
        rcases List.mem_cons.1 hmem with rfl | hmem
        · exact hle
        · exact hbefore other hmem
    · have hlower : ∀ other ∈ first :: rest, other.pod.priority < entry.pod.priority := by
        intro other hmem
        rcases List.mem_cons.1 hmem with rfl | hmem
        · exact Int32.not_le.1 hle
        · exact Int32.lt_of_le_of_lt (hfirst other hmem) (Int32.not_le.1 hle)
      exact ⟨[], first :: rest, rfl, insertEntry_of_lower hlower, by simp, hlower⟩

/-- An entry goes behind those of its own priority. -/
theorem insertEntry_behind {priority : Int32} {entry : QueuedPod} {front lower : List QueuedPod}
    (hentry : entry.pod.priority = priority)
    (hfront : ∀ other ∈ front, other.pod.priority = priority)
    (hlower : ∀ other ∈ lower, other.pod.priority < priority) :
    insertEntry entry (front ++ lower) = front ++ entry :: lower := by
  subst hentry
  have habove : ∀ other ∈ front, entry.pod.priority ≤ other.pod.priority := fun other hmem => by
    rw [hfront other hmem]
    exact Int32.le_refl _
  rw [insertEntry_append_left habove, insertEntry_of_lower hlower]

/-- A relation between the pods and those behind them is kept by an insertion if the new entry has
it to those of its priority or a higher one, which it goes behind, and to those of a lower one. -/
theorem pairwise_insertEntry {R : QueuedPod → QueuedPod → Prop} {entries : List QueuedPod}
    (hsorted : entries.Pairwise fun entry later => later.pod.priority ≤ entry.pod.priority)
    (h : entries.Pairwise R) {entry : QueuedPod}
    (hbefore : ∀ other ∈ entries, entry.pod.priority ≤ other.pod.priority → R other entry)
    (hbehind : ∀ other ∈ entries, other.pod.priority < entry.pod.priority → R entry other) :
    (insertEntry entry entries).Pairwise R := by
  obtain ⟨before, behind, rfl, hinsert, hhigher, hlower⟩ := exists_insertEntry_split hsorted entry
  obtain ⟨hleft, hright, hacross⟩ := List.pairwise_append.1 h
  rw [hinsert, List.pairwise_append, List.pairwise_cons]
  refine ⟨hleft, ⟨fun other hmem => ?_, hright⟩, fun other hmem later hlater => ?_⟩
  · exact hbehind other (List.mem_append_right _ hmem) (hlower other hmem)
  · rcases List.mem_cons.1 hlater with rfl | hlater
    · exact hbefore other (List.mem_append_left _ hmem) (hhigher other hmem)
    · exact hacross other hmem later hlater

end PendingList

/-! ### Operations on a tidy queue -/

namespace PodQueue

variable {queue : PodQueue}

theorem placeBack_eq (queue : PodQueue) (entry : QueuedPod) :
    queue.placeBack entry = queue.enqueue (entry.requeuedBy 1) := by
  have hentry : { entry with requeues := Counter.next32 entry.requeues } = entry.requeuedBy 1 :=
    QueuedPod.ext_requeues rfl rfl (congrArg UInt32.toNat entry.requeues_requeuedBy_one.symm)
  rw [placeBack, hentry]

theorem Tidy.push (h : Tidy queue.tiers) (pod : Pod) : Tidy (queue.push pod).tiers :=
  h.enqueueTier _

theorem Tidy.placeBack (h : Tidy queue.tiers) (entry : QueuedPod) :
    Tidy (queue.placeBack entry).tiers :=
  h.enqueueTier _

theorem Tidy.pushAll (h : Tidy queue.tiers) (pods : List Pod) :
    Tidy (queue.pushAll pods).tiers := by
  induction pods generalizing queue with
  | nil => exact h
  | cons pod rest ih => exact ih (h.push pod)

theorem Tidy.toList_push (h : Tidy queue.tiers) (pod : Pod) :
    (queue.push pod).toList =
      PendingList.insertEntry ⟨pod, queue.nextArrival, 0⟩ queue.toList :=
  h.flatMap_enqueueTier _

theorem Tidy.toList_placeBack (h : Tidy queue.tiers) (entry : QueuedPod) :
    (queue.placeBack entry).toList =
      PendingList.insertEntry (entry.requeuedBy 1) queue.toList := by
  rw [placeBack_eq]
  exact h.flatMap_enqueueTier _

theorem Tidy.of_pop {rest : PodQueue} {entry : QueuedPod} (h : Tidy queue.tiers)
    (hpop : queue.pop = .ok (entry, rest)) :
    Tidy rest.tiers ∧ rest.nextArrival = queue.nextArrival := by
  rcases pop_cases h with ⟨-, herror⟩ | ⟨taken, left, -, hok, htidy, hnext, -⟩
  · cases herror.symm.trans hpop
  · cases hok.symm.trans hpop
    exact ⟨htidy, hnext⟩

theorem Tidy.toList_eq_nil_of_pop (h : Tidy queue.tiers) (hpop : queue.pop = .error .empty) :
    queue.toList = [] := by
  rcases pop_cases h with ⟨hnil, -⟩ | ⟨taken, left, -, hok, -⟩
  · exact hnil
  · cases hok.symm.trans hpop

/-- The pods of the first tier stand before all others, which have a lower priority. -/
theorem Tidy.toList_cases (h : Tidy queue.tiers) :
    queue.toList = [] ∨ ∃ priority front lower, queue.toList = front ++ lower ∧ front ≠ [] ∧
      (∀ entry ∈ front, entry.pod.priority = priority) ∧
      ∀ entry ∈ lower, entry.pod.priority < priority := by
  obtain ⟨tiers, next, count⟩ := queue
  cases tiers with
  | nil => exact .inl rfl
  | cons tier rest =>
    obtain ⟨hne, hown⟩ := h.2 tier List.mem_cons_self
    exact .inr ⟨tier.priority, tier.waiting, rest.flatMap (·.waiting), rfl, hne, hown,
      fun entry hmem => h.lower_of_mem_tail hmem⟩

end PodQueue

end ClusterSim
