import ClusterSim.Proofs.Tick.Pending

/-!
# The order in which pods are placed

The number that a pod gets when it is pushed is its place among all pods submitted so far. Pods of
one priority that have not been tried stand in the queue by these numbers, whatever pods that have
been tried already stand between them (`InTurn`). Main statement: `submitted_first_placed_first`.
-/

namespace ClusterSim

/-! ### Attempts in a course of ticks -/

/-- The pods that the sources returned in ticks, as they entered the queue, in the order in which
they were submitted. -/
def submissions (records : List TickRecord) : List Pod :=
  records.flatMap fun record => record.returned.map (Pod.stamp record.clock)

/-- The pod that was submitted after so many others is tried in a tick. -/
def TriedAt (records : List TickRecord) (number tick : Nat) : Prop :=
  ∃ record entry, records[tick]? = some record ∧ record.entry = some entry ∧
    entry.arrival.toNat = number

/-- The tick is the first in which the pod is tried. -/
def FirstTriedAt (records : List TickRecord) (number tick : Nat) : Prop :=
  TriedAt records number tick ∧ ∀ earlier < tick, ¬ TriedAt records number earlier

/-- The pod is bound in a tick. -/
def BoundAt (records : List TickRecord) (number tick : Nat) : Prop :=
  ∃ record entry summary name, records[tick]? = some record ∧ record.entry = some entry ∧
    entry.arrival.toNat = number ∧ record.result = .ok summary ∧
    summary.placement = .bound entry.pod.id name

/-- The numbers of the pods that are tried in ticks, in order. -/
def triedNumbers (records : List TickRecord) : List Nat :=
  (attempts records).map (·.arrival.toNat)

theorem submissions_append (records more : List TickRecord) :
    submissions (records ++ more) = submissions records ++ submissions more :=
  List.flatMap_append

theorem submissions_singleton (record : TickRecord) :
    submissions [record] = record.returned.map (Pod.stamp record.clock) :=
  List.flatMap_singleton _ _

theorem triedNumbers_concat (records : List TickRecord) (record : TickRecord) :
    triedNumbers (records ++ [record]) =
      triedNumbers records ++ record.entry.toList.map (·.arrival.toNat) := by
  rw [triedNumbers, attempts_concat, List.map_append]
  rfl

theorem take_submissions_initial (records : List TickRecord) (n : Nat) :
    submissions (records.take n) <+: submissions records := by
  refine ⟨submissions (records.drop n), ?_⟩
  rw [← submissions_append, List.take_append_drop]

/-- The ticks before a tick have tried what has been tried at an earlier one. -/
theorem mem_triedNumbers_take_iff {records : List TickRecord} {number tick : Nat} :
    number ∈ triedNumbers (records.take tick) ↔ ∃ earlier < tick, TriedAt records number earlier := by
  constructor
  · intro hmem
    obtain ⟨entry, hattempt, hnumber⟩ := List.mem_map.1 hmem
    obtain ⟨record, hrecord, hentry⟩ := List.mem_filterMap.1 hattempt
    obtain ⟨earlier, hrecord⟩ := List.mem_iff_getElem?.1 hrecord
    rw [List.getElem?_take] at hrecord
    split at hrecord
    · rename_i hlt
      exact ⟨earlier, hlt, record, entry, hrecord, hentry, hnumber⟩
    · cases hrecord
  · rintro ⟨earlier, hlt, record, entry, hrecord, hentry, hnumber⟩
    have hmem : record ∈ records.take tick := by
      refine List.mem_iff_getElem?.2 ⟨earlier, ?_⟩
      rw [List.getElem?_take, if_pos hlt, hrecord]
    exact List.mem_map.2 ⟨entry, List.mem_filterMap.2 ⟨record, hmem, hentry⟩, hnumber⟩

/-- What is tried at all is tried for the first time at some tick. -/
theorem TriedAt.exists_first {records : List TickRecord} {number tick : Nat}
    (h : TriedAt records number tick) : ∃ first ≤ tick, FirstTriedAt records number first := by
  induction tick using Nat.strongRecOn with
  | ind tick ih =>
    by_cases hearlier : ∃ earlier < tick, TriedAt records number earlier
    · obtain ⟨earlier, hlt, htried⟩ := hearlier
      obtain ⟨first, hle, hfirst⟩ := ih earlier hlt htried
      exact ⟨first, by omega, hfirst⟩
    · exact ⟨tick, Nat.le_refl tick, h, fun earlier hlt htried => hearlier ⟨earlier, hlt, htried⟩⟩

theorem FirstTriedAt.unique {records : List TickRecord} {number tick other : Nat}
    (h : FirstTriedAt records number tick) (hother : FirstTriedAt records number other) :
    tick = other := by
  rcases Nat.lt_trichotomy tick other with hlt | heq | hgt
  · exact absurd h.1 (hother.2 tick hlt)
  · exact heq
  · exact absurd hother.1 (h.2 other hgt)

/-! ### The queue between attempts -/

/-- An entry stands before another as the order of submission demands, if both have one priority
and neither has been tried. -/
def QueuedPod.Precedes (entry later : QueuedPod) : Prop :=
  entry.pod.priority = later.pod.priority → entry.requeues = 0 → later.requeues = 0 →
    entry.arrival.toNat < later.arrival.toNat

/-- The queue after pods have been submitted and some of them have been tried. -/
structure InTurn (submitted : List Pod) (tried : List Nat) (queue : PodQueue) : Prop where
  tidy : PodQueue.Tidy queue.tiers
  next_eq : queue.nextArrival.toNat = submitted.length
  /-- An entry is that of the pod submitted after as many others as it says. -/
  pod_eq : ∀ entry ∈ queue.toList, submitted[entry.arrival.toNat]? = some entry.pod
  distinct : queue.toList.Pairwise fun entry later => entry.arrival ≠ later.arrival
  /-- The entries that have not been placed back are those of the pods that have not been tried. -/
  untried_iff : ∀ entry ∈ queue.toList, entry.requeues = 0 ↔ entry.arrival.toNat ∉ tried
  /-- A pod that has not been tried is pending. -/
  tried_or_pending : ∀ number < submitted.length,
    number ∈ tried ∨ ∃ entry ∈ queue.toList, entry.arrival.toNat = number
  tried_lt : ∀ number ∈ tried, number < submitted.length
  ascending : queue.toList.Pairwise QueuedPod.Precedes

namespace InTurn

variable {submitted : List Pod} {tried : List Nat} {queue : PodQueue}

theorem start : InTurn [] [] .empty where
  tidy := PodQueue.tidy_nil
  next_eq := rfl
  pod_eq := by simp [PodQueue.toList, PodQueue.empty]
  distinct := .nil
  untried_iff := by simp [PodQueue.toList, PodQueue.empty]
  tried_or_pending := by simp
  tried_lt := by simp
  ascending := .nil

theorem arrival_lt (h : InTurn submitted tried queue) {entry : QueuedPod}
    (hmem : entry ∈ queue.toList) : entry.arrival.toNat < submitted.length :=
  (List.getElem?_eq_some_iff.1 (h.pod_eq entry hmem)).1

theorem push (h : InTurn submitted tried queue) (pod : Pod)
    (hroom : submitted.length + 1 < UInt64.size) :
    InTurn (submitted ++ [pod]) tried (queue.push pod) := by
  have hmem : ∀ entry, entry ∈ (queue.push pod).toList ↔
      entry = ⟨pod, queue.nextArrival, 0⟩ ∨ entry ∈ queue.toList := by
    intro entry
    exact (queue.toList_enqueue_perm _).mem_iff.trans List.mem_cons
  have hfresh : ∀ entry ∈ queue.toList, entry.arrival.toNat < queue.nextArrival.toNat := by
    intro entry hentry
    rw [h.next_eq]
    exact h.arrival_lt hentry
  have hlength : (submitted ++ [pod]).length = submitted.length + 1 := by simp
  refine ⟨h.tidy.push pod, ?_, ?_, ?_, ?_, ?_, ?_, ?_⟩
  · show (Counter.next64 queue.nextArrival).toNat = _
    rw [Counter.toNat_next64, h.next_eq, hlength]
    omega
  · intro entry hentry
    rcases (hmem entry).1 hentry with rfl | hold
    · rw [h.next_eq, List.getElem?_concat_length]
    · rw [List.getElem?_append_left (h.arrival_lt hold)]
      exact h.pod_eq entry hold
  · rw [h.tidy.toList_push]
    refine PendingList.pairwise_insertEntry h.tidy.sorted h.distinct ?_ ?_
    · intro other hother _ heq
      exact Nat.lt_irrefl _ (heq ▸ hfresh other hother)
    · intro other hother _ heq
      exact Nat.lt_irrefl _ (heq ▸ hfresh other hother)
  · intro entry hentry
    rcases (hmem entry).1 hentry with rfl | hold
    · refine ⟨fun _ htried => ?_, fun _ => rfl⟩
      have hlt := h.tried_lt _ htried
      simp only [h.next_eq] at hlt
      omega
    · exact h.untried_iff entry hold
  · intro number hlt
    by_cases hnew : number = submitted.length
    · exact .inr ⟨_, (hmem _).2 (.inl rfl), h.next_eq.trans hnew.symm⟩
    · rcases h.tried_or_pending number (by omega) with htried | ⟨entry, hentry, hnumber⟩
      · exact .inl htried
      · exact .inr ⟨entry, (hmem _).2 (.inr hentry), hnumber⟩
  · intro number htried
    have hlt := h.tried_lt number htried
    omega
  · rw [h.tidy.toList_push]
    refine PendingList.pairwise_insertEntry h.tidy.sorted h.ascending ?_ ?_
    · intro other hother _ _ _ _
      exact hfresh other hother
    · intro other hother hlower hsame
      exact absurd hlower (by simp [← hsame, Int32.lt_irrefl])

theorem pushAll (h : InTurn submitted tried queue) (pods : List Pod)
    (hroom : (submitted ++ pods).length < UInt64.size) :
    InTurn (submitted ++ pods) tried (queue.pushAll pods) := by
  induction pods generalizing submitted queue with
  | nil => simpa [PodQueue.pushAll] using h
  | cons pod rest ih =>
    have hone : submitted.length + 1 < UInt64.size := by
      simp only [List.length_append, List.length_cons] at hroom
      omega
    rw [List.append_cons] at hroom ⊢
    exact ih (h.push pod hone) hroom

/-- The first pod leaves and has been tried. -/
theorem taken (h : InTurn submitted tried queue) {entry : QueuedPod} {rest : PodQueue}
    (hpop : queue.pop = .ok (entry, rest)) :
    InTurn submitted (tried ++ [entry.arrival.toNat]) rest := by
  have hlist := PodQueue.toList_of_pop hpop
  obtain ⟨htidy, hnext⟩ := h.tidy.of_pop hpop
  have hmem : ∀ other ∈ rest.toList, other ∈ queue.toList := by
    intro other hother
    rw [hlist]
    exact List.mem_cons_of_mem _ hother
  have hhead : entry ∈ queue.toList := hlist ▸ List.mem_cons_self
  obtain ⟨hother, hdistinct⟩ := List.pairwise_cons.1 (hlist ▸ h.distinct)
  refine ⟨htidy, hnext ▸ h.next_eq, ?_, hdistinct, ?_, ?_, ?_, ?_⟩
  · intro other hmem'
    exact h.pod_eq other (hmem other hmem')
  · intro other hmem'
    have hne : other.arrival.toNat ≠ entry.arrival.toNat := by
      intro heq
      exact hother other hmem' (UInt64.toNat_inj.1 heq.symm)
    rw [h.untried_iff other (hmem other hmem'), List.mem_append, List.mem_singleton]
    simp [hne]
  · intro number hlt
    rcases h.tried_or_pending number hlt with htried | ⟨other, hpending, hnumber⟩
    · exact .inl (List.mem_append_left _ htried)
    · rw [hlist] at hpending
      rcases List.mem_cons.1 hpending with rfl | hpending
      · exact .inl (List.mem_append_right _ (List.mem_singleton.2 hnumber.symm))
      · exact .inr ⟨other, hpending, hnumber⟩
  · intro number htried
    rcases List.mem_append.1 htried with htried | htried
    · exact h.tried_lt number htried
    · rw [List.mem_singleton.1 htried]
      exact h.arrival_lt hhead
  · exact (List.pairwise_cons.1 (hlist ▸ h.ascending)).2

/-- A pod that has been tried goes back. -/
theorem placeBack (h : InTurn submitted tried queue) {entry : QueuedPod}
    (hpod : submitted[entry.arrival.toNat]? = some entry.pod)
    (htried : entry.arrival.toNat ∈ tried)
    (hnew : ∀ other ∈ queue.toList, entry.arrival ≠ other.arrival) :
    InTurn submitted tried (queue.placeBack entry) := by
  have hlist := h.tidy.toList_placeBack entry
  have hcount : (entry.requeuedBy 1).requeues ≠ 0 := entry.requeues_requeuedBy_ne_zero (by decide)
  have hmem : ∀ other, other ∈ (queue.placeBack entry).toList ↔
      other = entry.requeuedBy 1 ∨ other ∈ queue.toList := by
    intro other
    rw [PodQueue.placeBack_eq]
    exact (queue.toList_enqueue_perm _).mem_iff.trans List.mem_cons
  refine ⟨h.tidy.placeBack entry, h.next_eq, ?_, ?_, ?_, ?_, h.tried_lt, ?_⟩
  · intro other hother
    rcases (hmem other).1 hother with rfl | hold
    · exact hpod
    · exact h.pod_eq other hold
  · rw [hlist]
    refine PendingList.pairwise_insertEntry h.tidy.sorted h.distinct ?_ ?_
    · intro other hother _ heq
      exact hnew other hother heq.symm
    · intro other hother _
      exact hnew other hother
  · intro other hother
    rcases (hmem other).1 hother with rfl | hold
    · exact ⟨fun hzero => absurd hzero hcount, fun huntried => absurd htried huntried⟩
    · exact h.untried_iff other hold
  · intro number hlt
    rcases h.tried_or_pending number hlt with hbefore | ⟨other, hother, hnumber⟩
    · exact .inl hbefore
    · exact .inr ⟨other, (hmem other).2 (.inr hother), hnumber⟩
  · -- the pod that goes back has been tried, so nothing is asked of its place
    rw [hlist]
    refine PendingList.pairwise_insertEntry h.tidy.sorted h.ascending ?_ ?_
    · intro other _ _ _ _ hzero
      exact absurd hzero hcount
    · intro other _ _ _ hzero
      exact absurd hzero hcount

/-- Of the pods of one priority, those submitted before one that is tried for the first time have
been tried already. -/
theorem mem_tried (h : InTurn submitted tried queue) {entry : QueuedPod}
    {rest : List QueuedPod} (hhead : queue.toList = entry :: rest)
    (huntried : entry.arrival.toNat ∉ tried) {first : Nat} (hlt : first < entry.arrival.toNat)
    {pod : Pod} (hpod : submitted[first]? = some pod) (hsame : pod.priority = entry.pod.priority) :
    first ∈ tried := by
  have hmem : entry ∈ queue.toList := hhead ▸ List.mem_cons_self
  obtain ⟨hfirst, -⟩ := List.getElem?_eq_some_iff.1 hpod
  rcases h.tried_or_pending first hfirst with htried | ⟨other, hother, hnumber⟩
  · exact htried
  · by_contra hnot
    have hpods := h.pod_eq other hother
    rw [hnumber, hpod] at hpods
    obtain rfl := Option.some.inj hpods
    have hbehind : other ∈ rest := by
      rcases List.mem_cons.1 (hhead ▸ hother) with rfl | hbehind
      · omega
      · exact hbehind
    have hascending := h.ascending
    rw [hhead, List.pairwise_cons] at hascending
    have hprecedes := hascending.1 other hbehind hsame.symm
      ((h.untried_iff entry hmem).2 huntried) ((h.untried_iff other hother).2 (hnumber ▸ hnot))
    omega

theorem placed {cluster after : Cluster} {now : Instant} {entry : Option QueuedPod}
    {placement : Except TickError Placement} (h : InTurn submitted tried cluster.queue)
    (hplaced : cluster.Placed now after entry placement) :
    InTurn submitted (tried ++ entry.toList.map (·.arrival.toNat)) after.queue := by
  cases hplaced with
  | idle => simpa using h
  | bound hpop => exact h.taken hpop
  | refused hpop => exact h.taken hpop
  | @requeued entry queue hpop =>
    have hlist := PodQueue.toList_of_pop hpop
    refine (h.taken hpop).placeBack (h.pod_eq entry (hlist ▸ List.mem_cons_self)) (by simp) ?_
    exact (List.pairwise_cons.1 (hlist ▸ h.distinct)).1

end InTurn

/-! ### The order in a course of ticks -/

namespace Course

variable {nodes : List Node} {strategy : Strategy} {records : List TickRecord} {cluster : Cluster}

theorem inTurn (h : Course (.new nodes strategy) records cluster)
    (hroom : (submissions records).length < UInt64.size) :
    InTurn (submissions records) (triedNumbers records) cluster.queue := by
  induction h using lawful_induction with
  | start => exact .start
  | @next records record _ lawful _ ih =>
    rw [submissions_append, submissions_singleton] at hroom ⊢
    rw [triedNumbers_concat]
    have hbefore := ih (by rw [List.length_append] at hroom; omega)
    have hfilled : InTurn _ _ record.filled.queue := hbefore.pushAll _ hroom
    cases lawful with
    | failed _ hentry hafter =>
      rw [hentry, hafter]
      simpa using hfilled
    | placed hplaced => exact hfilled.placed hplaced

/-- The queue of a tick when its sources have been asked. -/
theorem inTurn_filled (h : Course (.new nodes strategy) records cluster)
    (hroom : (submissions records).length < UInt64.size) {tick : Nat} {record : TickRecord}
    (hrecord : records[tick]? = some record) :
    InTurn (submissions (records.take (tick + 1))) (triedNumbers (records.take tick))
      record.filled.queue := by
  have hle := (take_submissions_initial records (tick + 1)).length_le
  rw [List.take_add_one, hrecord, Option.toList_some, submissions_append,
    submissions_singleton] at hle ⊢
  have hbefore := (h.of_getElem? hrecord).1.inTurn (by rw [List.length_append] at hle; omega)
  exact hbefore.pushAll _ (by omega)

/-- An entry that is tried is that of the pod of its number. -/
theorem pod_of_entry (h : Course (.new nodes strategy) records cluster)
    (hroom : (submissions records).length < UInt64.size) {tick : Nat} {record : TickRecord}
    (hrecord : records[tick]? = some record) {entry : QueuedPod}
    (hentry : record.entry = some entry) :
    (submissions records)[entry.arrival.toNat]? = some entry.pod := by
  obtain ⟨rest, hhead⟩ := (h.of_getElem? hrecord).2.filled_of_entry hentry
  have hpod := (h.inTurn_filled hroom hrecord).pod_eq entry (hhead ▸ List.mem_cons_self)
  obtain ⟨more, hmore⟩ := take_submissions_initial records (tick + 1)
  rw [← hmore, List.getElem?_append_left (List.getElem?_eq_some_iff.1 hpod).1]
  exact hpod

/-- The pod that is tried has the greatest priority of those that are pending. -/
theorem priority_le_of_entry (h : Course (.new nodes strategy) records cluster) {tick : Nat}
    {record : TickRecord} (hrecord : records[tick]? = some record) {entry : QueuedPod}
    (hentry : record.entry = some entry) :
    entry ∈ record.filled.queue.toList ∧
      ∀ other ∈ record.filled.queue.toList, other.pod.priority ≤ entry.pod.priority := by
  obtain ⟨hbefore, lawful⟩ := h.of_getElem? hrecord
  obtain ⟨rest, hhead⟩ := lawful.filled_of_entry hentry
  have hsorted := (TickRecord.tidy_filled (hbefore.tidy (Cluster.tidy_new _ _))).sorted
  have hlist : record.filled.queue.tiers.flatMap (·.waiting) = entry :: rest := hhead
  rw [hlist, List.pairwise_cons] at hsorted
  rw [hhead]
  refine ⟨List.mem_cons_self, fun other hmem => ?_⟩
  rcases List.mem_cons.1 hmem with rfl | hmem
  · exact Int32.le_refl _
  · exact hsorted.1 other hmem

/-- A pod is tried for the first time before any that was submitted after it with its priority. -/
theorem exists_firstTriedAt_lt (h : Course (.new nodes strategy) records cluster)
    (hroom : (submissions records).length < UInt64.size) {first second tick : Nat}
    (hlt : first < second) {earlier later : Pod}
    (hearlier : (submissions records)[first]? = some earlier)
    (hlater : (submissions records)[second]? = some later)
    (hsame : earlier.priority = later.priority) (htried : TriedAt records second tick) :
    ∃ before < tick, FirstTriedAt records first before := by
  -- it is enough to look at the first attempt on the later pod
  obtain ⟨initial, hle, ⟨record, entry, hrecord, hentry, hnumber⟩, hinitial⟩ := htried.exists_first
  have hturn := h.inTurn_filled hroom hrecord
  obtain ⟨rest, hhead⟩ := (h.of_getElem? hrecord).2.filled_of_entry hentry
  have huntried : entry.arrival.toNat ∉ triedNumbers (records.take initial) := by
    rw [mem_triedNumbers_take_iff]
    rintro ⟨before, hbefore, htried⟩
    exact hinitial before hbefore (hnumber ▸ htried)
  have hpod : (submissions (records.take (initial + 1)))[first]? = some earlier := by
    have hsecond := hturn.arrival_lt (hhead ▸ List.mem_cons_self)
    obtain ⟨more, hmore⟩ := take_submissions_initial records (initial + 1)
    rwa [← hmore, List.getElem?_append_left (by omega)] at hearlier
  have hpriority : earlier.priority = entry.pod.priority := by
    have hentrypod := h.pod_of_entry hroom hrecord hentry
    rw [hnumber, hlater] at hentrypod
    rw [hsame, Option.some.inj hentrypod]
  have hmem := hturn.mem_tried hhead huntried (hnumber ▸ hlt) hpod hpriority
  obtain ⟨attempt, hattempt, hfirst⟩ := mem_triedNumbers_take_iff.1 hmem
  obtain ⟨before, hbefore, hfirst⟩ := hfirst.exists_first
  exact ⟨before, by omega, hfirst⟩

/-- A pod is bound when it is tried for the first time, or never. -/
theorem firstTriedAt_of_boundAt (h : Course (.new nodes strategy) records cluster)
    (hroom : (submissions records).length < UInt64.size) {number tick : Nat}
    (hbound : BoundAt records number tick) : FirstTriedAt records number tick := by
  obtain ⟨record, entry, summary, name, hrecord, hentry, hnumber, hok, hplacement⟩ := hbound
  refine ⟨⟨record, entry, hrecord, hentry, hnumber⟩, fun earlier hlt htried => ?_⟩
  have hmem : record ∈ records := List.mem_of_getElem? hrecord
  obtain ⟨tried, htriedentry, -, hcount⟩ :=
    h.requeues_of_bound (Cluster.hopeless_new _ _) record hmem summary _ name hok hplacement
  obtain rfl := Option.some.inj (hentry.symm.trans htriedentry)
  obtain ⟨rest, hhead⟩ := (h.of_getElem? hrecord).2.filled_of_entry hentry
  have huntried := ((h.inTurn_filled hroom hrecord).untried_iff entry
    (hhead ▸ List.mem_cons_self)).1 hcount
  exact huntried (hnumber ▸ mem_triedNumbers_take_iff.2 ⟨earlier, hlt, htried⟩)

end Course

/-- Whatever ticks a new cluster goes through, while fewer than `UInt64.size` pods are submitted:
the pod that is tried has the greatest priority of all that are pending then; whenever a pod is
tried, each pod of its priority that was submitted before it has been tried in an earlier tick; and
of two pods of one priority that are bound, the one submitted first is bound in an earlier tick. -/
theorem submitted_first_placed_first {nodes : List Node} {strategy : Strategy}
    {records : List TickRecord} {cluster : Cluster}
    (h : Course (.new nodes strategy) records cluster)
    (hroom : (submissions records).length < UInt64.size) :
    (∀ (tick : Nat) record entry, records[tick]? = some record → record.entry = some entry →
      (submissions records)[entry.arrival.toNat]? = some entry.pod ∧
      entry ∈ record.filled.queue.toList ∧
      ∀ other ∈ record.filled.queue.toList, other.pod.priority ≤ entry.pod.priority) ∧
    ∀ (first second : Nat) earlier later, first < second →
      (submissions records)[first]? = some earlier →
      (submissions records)[second]? = some later → earlier.priority = later.priority →
      (∀ tick, TriedAt records second tick → ∃ before < tick, FirstTriedAt records first before) ∧
      ∀ start finish, BoundAt records first start → BoundAt records second finish →
        start < finish := by
  refine ⟨fun tick record entry hrecord hentry => ?_, ?_⟩
  · exact ⟨h.pod_of_entry hroom hrecord hentry, h.priority_le_of_entry hrecord hentry⟩
  · intro first second earlier later hlt hearlier hlater hsame
    have htried : ∀ tick, TriedAt records second tick →
        ∃ before < tick, FirstTriedAt records first before :=
      fun tick => h.exists_firstTriedAt_lt hroom hlt hearlier hlater hsame
    refine ⟨htried, fun start finish hstart hfinish => ?_⟩
    obtain ⟨before, hbefore, hfirst⟩ := htried finish (h.firstTriedAt_of_boundAt hroom hfinish).1
    rw [(h.firstTriedAt_of_boundAt hroom hstart).unique hfirst]
    exact hbefore

/-- Two pods of one priority are bound in the order in which they were submitted, although one that
is too big for the node goes back between them. -/
theorem submitted_first_placed_first_fourth_tick :
    let big : Pod := .new ⟨7⟩ "big" (.ofList [("cpu", 1001)]) 5
    let web : Pod := .new ⟨8⟩ "web" (.ofList [("cpu", 300)]) 5
    let job : Pod := .new ⟨8⟩ "job" (.ofList [("cpu", 300)]) 5
    let origin : Cluster := .new [.new "node-a" (.ofList [("cpu", 1000)])] .leastAllocated
    let first := origin.record 1 .epoch .fresh [Script.mk [[big, web]]]
    let second := first.after.record 2 .epoch .fresh [Script.mk [[job]]]
    let third := second.after.record 3 .epoch .fresh [Script.mk []]
    let fourth := third.after.record 4 .epoch .fresh [Script.mk []]
    let records := [first, second, third, fourth]
    BoundAt records 1 1 ∧ BoundAt records 2 3 ∧ ∃ before < 3, FirstTriedAt records 1 before := by
  intro big web job origin first second third fourth records
  have hfirst : Course origin [first] first.after :=
    Course.start.next_record 1 .epoch .fresh [Script.mk [[big, web]]]
  have hsecond : Course origin [first, second] second.after :=
    hfirst.next_record 2 .epoch .fresh [Script.mk [[job]]]
  have hthird : Course origin [first, second, third] third.after :=
    hsecond.next_record 3 .epoch .fresh [Script.mk []]
  have hcourse : Course origin records fourth.after :=
    hthird.next_record 4 .epoch .fresh [Script.mk []]
  have hweb : BoundAt records 1 1 :=
    ⟨second, ⟨web.stamp .epoch, 1, 0⟩, ⟨2, .epoch, 1, .bound ⟨8⟩ "node-a", 2⟩, "node-a", rfl,
      by decide, rfl, by decide +kernel, rfl⟩
  have hjob : BoundAt records 2 3 :=
    ⟨fourth, ⟨job.stamp .epoch, 2, 0⟩, ⟨4, .epoch, 0, .bound ⟨8⟩ "node-a", 1⟩, "node-a", rfl,
      by decide, rfl, by decide +kernel, rfl⟩
  have horder := (submitted_first_placed_first hcourse (by decide)).2 1 2 (web.stamp .epoch)
    (job.stamp .epoch) (by decide) rfl rfl rfl
  refine ⟨hweb, hjob, horder.1 3 ?_⟩
  exact ⟨fourth, ⟨job.stamp .epoch, 2, 0⟩, rfl, by decide, rfl⟩

end ClusterSim
