import ClusterSim.Proofs.Queue.Pending
import ClusterSim.Proofs.Tick.Retry

/-!
# The pending pods of a course of ticks

The queue of a cluster that ticks have reached is tidy (`Course.tidy`), so what a tick does to the
pending pods can be read off the plain list of them (`Placed.of_cons`). A tick of a course can also
be looked at in its place, with the course up to it (`Course.of_getElem?`).
-/

namespace ClusterSim

/-- The entries that ticks have tried, in order. -/
def attempts (records : List TickRecord) : List QueuedPod := records.filterMap (·.entry)

theorem attempts_concat (records : List TickRecord) (record : TickRecord) :
    attempts (records ++ [record]) = attempts records ++ record.entry.toList := by
  rw [attempts, List.filterMap_append]
  cases hentry : record.entry <;> simp [attempts, hentry]

theorem Cluster.tidy_new (nodes : List Node) (strategy : Strategy) :
    PodQueue.Tidy (new nodes strategy).queue.tiers := PodQueue.tidy_nil

theorem Cluster.Placed.tidy {cluster after : Cluster} {now : Instant} {entry : Option QueuedPod}
    {placement : Except TickError Placement} (h : PodQueue.Tidy cluster.queue.tiers)
    (hplaced : Placed cluster now after entry placement) : PodQueue.Tidy after.queue.tiers := by
  cases hplaced with
  | idle => exact h
  | requeued hpop => exact (h.of_pop hpop).1.placeBack _
  | bound hpop => exact (h.of_pop hpop).1
  | refused hpop => exact (h.of_pop hpop).1

/-- The first pod goes back exactly if it fits nowhere, and else it leaves the queue. -/
theorem Cluster.Placed.of_cons {cluster after : Cluster} {now : Instant}
    {entry : Option QueuedPod} {placement : Except TickError Placement}
    (h : PodQueue.Tidy cluster.queue.tiers) {first : QueuedPod} {rest : List QueuedPod}
    (hlist : cluster.queue.toList = first :: rest)
    (hplaced : Placed cluster now after entry placement) :
    entry = some first ∧
      (cluster.Rejects first.pod ∧ after.nodes = cluster.nodes ∧
          placement = .ok (.requeued first.pod.id (Counter.next32 first.requeues)) ∧
          after.queue.toList = PendingList.insertEntry (first.requeuedBy 1) rest ∨
        ¬ cluster.Rejects first.pod ∧ after.queue.toList = rest) := by
  cases hplaced with
  | idle hpop => cases (h.toList_eq_nil_of_pop hpop).symm.trans hlist
  | @requeued _ queue hpop hchoice =>
    obtain ⟨rfl, hrest⟩ := PodQueue.of_pop_of_cons hlist hpop
    refine ⟨rfl, .inl ⟨(schedule_eq_doesNotFit_iff.1 hchoice).2, rfl, rfl, ?_⟩⟩
    rw [← hrest]
    exact (h.of_pop hpop).1.toList_placeBack _
  | bound hpop hchoice =>
    obtain ⟨rfl, hrest⟩ := PodQueue.of_pop_of_cons hlist hpop
    exact ⟨rfl, .inr ⟨fun hrejects => hrejects.not_selected hchoice, hrest⟩⟩
  | refused hpop hchoice =>
    obtain ⟨rfl, hrest⟩ := PodQueue.of_pop_of_cons hlist hpop
    exact ⟨rfl, .inr ⟨fun hrejects => hrejects.not_selected hchoice, hrest⟩⟩

/-- With no pod pending nothing happens. -/
theorem Cluster.Placed.of_nil {cluster after : Cluster} {now : Instant}
    {entry : Option QueuedPod} {placement : Except TickError Placement}
    (hlist : cluster.queue.toList = []) (hplaced : Placed cluster now after entry placement) :
    entry = none ∧ placement = .ok .idle ∧ after = cluster := by
  have hpop : ∀ {tried queue}, cluster.queue.pop ≠ .ok (tried, queue) := by
    intro tried queue hok
    cases (PodQueue.toList_of_pop hok).symm.trans hlist
  cases hplaced with
  | idle => exact ⟨rfl, rfl, rfl⟩
  | requeued hok => exact absurd hok hpop
  | bound hok => exact absurd hok hpop
  | refused hok => exact absurd hok hpop

theorem TickRecord.tidy_filled {record : TickRecord}
    (h : PodQueue.Tidy record.before.queue.tiers) : PodQueue.Tidy record.filled.queue.tiers :=
  h.pushAll _

/-- The pod that is tried is the first that is pending when the sources have been asked. -/
theorem TickRecord.Lawful.filled_of_entry {record : TickRecord} (h : record.Lawful)
    {entry : QueuedPod} (hentry : record.entry = some entry) :
    ∃ rest, record.filled.queue.toList = entry :: rest := by
  cases h with
  | failed _ hnone => cases hnone.symm.trans hentry
  | placed hplaced =>
    rw [hentry] at hplaced
    generalize record.after = after at hplaced
    cases hplaced with
    | requeued hpop => exact ⟨_, PodQueue.toList_of_pop hpop⟩
    | bound hpop => exact ⟨_, PodQueue.toList_of_pop hpop⟩
    | refused hpop => exact ⟨_, PodQueue.toList_of_pop hpop⟩

namespace Course

variable {origin cluster : Cluster} {records : List TickRecord}

/-- One more tick, given by its record. -/
theorem next_record {σ : Type} [Submitter σ] (past : Course origin records cluster)
    (number : UInt64) (now : Instant) (supply : PodId.Supply) (sources : List σ) :
    Course origin (records ++ [cluster.record number now supply sources])
      (cluster.record number now supply sources).after :=
  .next past number now supply sources

theorem tidy (h : Course origin records cluster) (horigin : PodQueue.Tidy origin.queue.tiers) :
    PodQueue.Tidy cluster.queue.tiers := by
  induction h using lawful_induction with
  | start => exact horigin
  | @next _ record _ lawful _ ih =>
    have hfilled := TickRecord.tidy_filled ih
    exact lawful.after_of (P := fun after => PodQueue.Tidy after.queue.tiers) hfilled
      fun hplaced => hplaced.tidy hfilled

/-- The ticks before a tick of a course lead to where it starts. -/
theorem of_getElem? (h : Course origin records cluster) {tick : Nat} {record : TickRecord}
    (hrecord : records[tick]? = some record) :
    Course origin (records.take tick) record.before ∧ record.Lawful := by
  induction h using lawful_induction with
  | start => cases hrecord
  | @next records last past lawful _ ih =>
    rcases Nat.lt_trichotomy tick records.length with hlt | heq | hgt
    · rw [List.getElem?_append_left hlt] at hrecord
      rw [List.take_append_of_le_length (Nat.le_of_lt hlt)]
      exact ih hrecord
    · rw [heq, List.getElem?_concat_length] at hrecord
      obtain rfl := Option.some.inj hrecord
      rw [heq, List.take_left]
      exact ⟨past, lawful⟩
    · have hlength : (records ++ [last]).length ≤ tick := by
        rw [List.length_append]
        exact hgt
      rw [List.getElem?_eq_none hlength] at hrecord
      cases hrecord

end Course

end ClusterSim
