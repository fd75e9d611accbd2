import ClusterSim.Proofs.Tick.Pending

/-!
# A tier of pods that fit nowhere

While the pods of the highest priority fit nowhere and only pods of a lower priority are submitted,
every tick puts one of them back, so that they take turns and nothing else happens. Main statement:
`blocked_tier_rotates`, with the exact tier after any number of attempts (`turned`).
-/

namespace ClusterSim

/-! ### Turns -/

/-- The entries of a tier after so many attempts of which none succeeded: those that have had their
turn in the round that is under way stand behind the others and have been placed back once more. -/
def turned (tier : List QueuedPod) (count : Nat) : List QueuedPod :=
  (tier.drop (count % tier.length)).map (·.requeuedBy (count / tier.length)) ++
    (tier.take (count % tier.length)).map (·.requeuedBy (count / tier.length + 1))

/-- After whole rounds a tier stands as in the beginning. -/
theorem turned_mul {tier : List QueuedPod} (h : tier ≠ []) (rounds : Nat) :
    turned tier (rounds * tier.length) = tier.map (·.requeuedBy rounds) := by
  have hpos : 0 < tier.length := List.length_pos_iff.2 h
  simp [turned, Nat.mul_div_cancel rounds hpos]

theorem turned_zero {tier : List QueuedPod} (h : tier ≠ []) : turned tier 0 = tier := by
  have hround := turned_mul h 0
  rw [Nat.zero_mul] at hround
  simpa using hround

/-- The entry that has its turn next leaves the front and goes behind the others. -/
theorem exists_turned_eq_cons {tier : List QueuedPod} (h : tier ≠ []) (count : Nat) :
    ∃ first rest,
      tier[count % tier.length]?.map (·.requeuedBy (count / tier.length)) = some first ∧
      turned tier count = first :: rest ∧
      turned tier (count + 1) = rest ++ [first.requeuedBy 1] := by
  have hpos : 0 < tier.length := List.length_pos_iff.2 h
  have hlt : count % tier.length < tier.length := Nat.mod_lt count hpos
  obtain ⟨entry, hentry⟩ : ∃ entry, tier[count % tier.length]? = some entry :=
    ⟨_, List.getElem?_eq_getElem hlt⟩
  have hdrop : tier.drop (count % tier.length) =
      entry :: tier.drop (count % tier.length + 1) := by
    rw [List.drop_eq_getElem_cons hlt, (List.getElem_eq_iff hlt).2 hentry]
  have htake : tier.take (count % tier.length + 1) =
      tier.take (count % tier.length) ++ [entry] := by
    rw [List.take_add_one, hentry]
    rfl
  have hcount : count + 1 = count % tier.length + 1 + tier.length * (count / tier.length) := by
    have hdivision := Nat.mod_add_div count tier.length
    omega
  refine ⟨entry.requeuedBy (count / tier.length),
    (tier.drop (count % tier.length + 1)).map (·.requeuedBy (count / tier.length)) ++
      (tier.take (count % tier.length)).map (·.requeuedBy (count / tier.length + 1)),
    by rw [hentry]; rfl, ?_, ?_⟩
  · rw [turned, hdrop]
    rfl
  · rw [QueuedPod.requeuedBy_requeuedBy]
    by_cases hlast : count % tier.length + 1 = tier.length
    · -- the round is complete
      have hrounds : count + 1 = (count / tier.length + 1) * tier.length := by
        rw [hcount, hlast, Nat.succ_mul, Nat.mul_comm, Nat.add_comm]
      rw [hlast, List.take_length] at htake
      rw [hrounds, turned_mul h, hlast, List.drop_length, List.map_nil, List.nil_append]
      exact (congrArg (List.map _) htake).trans List.map_append
    · have hsmall : count % tier.length + 1 < tier.length := by omega
      have hmod : (count + 1) % tier.length = count % tier.length + 1 := by
        rw [hcount, Nat.add_mul_mod_self_left, Nat.mod_eq_of_lt hsmall]
      have hdiv : (count + 1) / tier.length = count / tier.length := by
        rw [hcount, Nat.add_mul_div_left _ _ hpos, Nat.div_eq_of_lt hsmall, Nat.zero_add]
      rw [turned, hmod, hdiv, htake, List.map_append, List.append_assoc]
      rfl

/-! ### Pods that come in behind -/

/-- Pods that have never been placed back have come to others, which are still there, as they were
and in the same order. -/
structure Joined (old new : List QueuedPod) : Prop where
  sublist : old.Sublist new
  fresh : ∀ entry ∈ new, entry ∈ old ∨ entry.requeues = 0

namespace Joined

theorem refl (entries : List QueuedPod) : Joined entries entries :=
  ⟨.refl entries, fun _ hmem => .inl hmem⟩

theorem trans {old middle new : List QueuedPod} (h : Joined old middle) (hnew : Joined middle new) :
    Joined old new := by
  refine ⟨h.sublist.trans hnew.sublist, fun entry hmem => ?_⟩
  rcases hnew.fresh entry hmem with hmiddle | hzero
  · exact h.fresh entry hmiddle
  · exact .inr hzero

theorem insert (before behind : List QueuedPod) {entry : QueuedPod} (h : entry.requeues = 0) :
    Joined (before ++ behind) (before ++ entry :: behind) := by
  refine ⟨(List.sublist_cons_self entry behind).append_left before, fun other hmem => ?_⟩
  rcases List.mem_append.1 hmem with hmem | hmem
  · exact .inl (List.mem_append_left _ hmem)
  · rcases List.mem_cons.1 hmem with rfl | hmem
    · exact .inr h
    · exact .inl (List.mem_append_right _ hmem)

end Joined

/-! ### A blocked tier -/

namespace Cluster

/-- The pods of the highest priority fit no node. -/
structure Blocked (cluster : Cluster) (priority : Int32) (tier lower : List QueuedPod) : Prop where
  toList_eq : cluster.queue.toList = tier ++ lower
  tier_ne_nil : tier ≠ []
  priority_eq : ∀ entry ∈ tier, entry.pod.priority = priority
  priority_lt : ∀ entry ∈ lower, entry.pod.priority < priority
  rejects : ∀ entry ∈ tier, cluster.Rejects entry.pod

namespace Blocked

variable {cluster : Cluster} {priority : Int32} {tier lower : List QueuedPod}

theorem push (h : cluster.Blocked priority tier lower)
    (htidy : PodQueue.Tidy cluster.queue.tiers) {pod : Pod} (hlow : pod.priority < priority) :
    ∃ joined, Joined lower joined ∧
      { cluster with queue := cluster.queue.push pod }.Blocked priority tier joined := by
  have hsorted := htidy.sorted
  have hlist : cluster.queue.tiers.flatMap (·.waiting) = tier ++ lower := h.toList_eq
  rw [hlist] at hsorted
  let new : QueuedPod := ⟨pod, cluster.queue.nextArrival, 0⟩
  have habove : ∀ other ∈ tier, new.pod.priority ≤ other.pod.priority := by
    intro other hmem
    rw [h.priority_eq other hmem]
    exact Int32.le_of_lt hlow
  obtain ⟨before, behind, rfl, hinsert, -⟩ :=
    PendingList.exists_insertEntry_split (List.pairwise_append.1 hsorted).2.1 new
  have hjoined : Joined (before ++ behind) (before ++ new :: behind) :=
    .insert before behind rfl
  refine ⟨_, hjoined, ?_, h.tier_ne_nil, h.priority_eq, ?_, h.rejects⟩
  · show (cluster.queue.push pod).toList = _
    rw [htidy.toList_push, h.toList_eq, PendingList.insertEntry_append_left habove, hinsert]
  · intro other hmem
    rcases List.mem_append.1 hmem with hmem | hmem
    · exact h.priority_lt other (List.mem_append_left _ hmem)
    · rcases List.mem_cons.1 hmem with rfl | hmem
      · exact hlow
      · exact h.priority_lt other (List.mem_append_right _ hmem)

theorem pushAll (h : cluster.Blocked priority tier lower)
    (htidy : PodQueue.Tidy cluster.queue.tiers) {pods : List Pod}
    (hlow : ∀ pod ∈ pods, pod.priority < priority) :
    ∃ joined, Joined lower joined ∧
      { cluster with queue := cluster.queue.pushAll pods }.Blocked priority tier joined := by
  induction pods generalizing cluster lower with
  | nil => exact ⟨lower, .refl lower, h⟩
  | cons pod rest ih =>
    obtain ⟨middle, hmiddle, hpushed⟩ := h.push htidy (hlow pod List.mem_cons_self)
    obtain ⟨joined, hjoined, hblocked⟩ := ih hpushed (htidy.push pod)
      fun other hmem => hlow other (List.mem_cons_of_mem _ hmem)
    exact ⟨joined, hmiddle.trans hjoined, hblocked⟩

/-- The first pod of the tier is tried, and goes behind the others. -/
theorem placed (h : cluster.Blocked priority tier lower)
    (htidy : PodQueue.Tidy cluster.queue.tiers) {first : QueuedPod} {rest : List QueuedPod}
    (htier : tier = first :: rest) {after : Cluster} {now : Instant} {entry : Option QueuedPod}
    {placement : Except TickError Placement} (hplaced : Placed cluster now after entry placement) :
    entry = some first ∧
      placement = .ok (.requeued first.pod.id (Counter.next32 first.requeues)) ∧
      after.nodes = cluster.nodes ∧
      after.Blocked priority (rest ++ [first.requeuedBy 1]) lower := by
  subst htier
  have hlist : cluster.queue.toList = first :: (rest ++ lower) := h.toList_eq
  have hpriority : (first.requeuedBy 1).pod.priority = priority :=
    h.priority_eq first List.mem_cons_self
  have hrest : ∀ other ∈ rest, other.pod.priority = priority := fun other hmem =>
    h.priority_eq other (List.mem_cons_of_mem _ hmem)
  have hstill : ∀ other ∈ rest, after.Rejects other.pod := fun other hmem =>
    (h.rejects other (List.mem_cons_of_mem _ hmem)).placed hplaced
  have hback : after.Rejects (first.requeuedBy 1).pod :=
    (h.rejects first List.mem_cons_self).placed hplaced
  obtain ⟨hentry, ⟨-, hnodes, hplacement, hafter⟩ | ⟨hfits, -⟩⟩ := hplaced.of_cons htidy hlist
  · refine ⟨hentry, hplacement, hnodes, ?_, by simp, ?_, h.priority_lt, ?_⟩
    · rw [hafter, PendingList.insertEntry_behind hpriority hrest h.priority_lt, List.append_assoc]
      rfl
    · exact List.forall_mem_append.2 ⟨hrest, List.forall_mem_singleton.2 hpriority⟩
    · exact List.forall_mem_append.2 ⟨hstill, List.forall_mem_singleton.2 hback⟩
  · exact absurd (h.rejects first List.mem_cons_self) hfits

end Blocked

end Cluster

/-! ### Ticks of a blocked cluster -/

namespace TickRecord

/-- Whether a source failed in the tick. -/
def sourceFailed (record : TickRecord) : Bool :=
  match record.result with
  | .error (.submitter _) => true
  | _ => false

/-- A source failed in the tick, so that nothing was tried. -/
def Failed (record : TickRecord) : Prop := record.entry = none ∧ record.sourceFailed

theorem sourceFailed_of_error {record : TickRecord} {fault : SubmitError}
    (h : record.result = .error (.submitter fault)) : record.sourceFailed = true := by
  rw [sourceFailed, h]

theorem sourceFailed_of_ok {record : TickRecord} {summary : TickSummary}
    (h : record.result = .ok summary) : record.sourceFailed = false := by
  rw [sourceFailed, h]

/-- The tick tried the pod of an entry and placed it back, once more than before. -/
def Requeues (record : TickRecord) (entry : QueuedPod) : Prop :=
  record.entry = some entry ∧ ∃ summary, record.result = .ok summary ∧
    summary.placement = .requeued entry.pod.id (Counter.next32 entry.requeues)

theorem Lawful.blocked {record : TickRecord} (h : record.Lawful) {priority : Int32}
    {tier lower : List QueuedPod} (hblocked : record.before.Blocked priority tier lower)
    (htidy : PodQueue.Tidy record.before.queue.tiers)
    (hlow : ∀ pod ∈ record.returned, pod.priority < priority) {first : QueuedPod}
    {rest : List QueuedPod} (htier : tier = first :: rest) :
    record.after.nodes = record.before.nodes ∧ ∃ joined, Joined lower joined ∧
      (record.Failed ∧ record.after.Blocked priority tier joined ∨
        record.Requeues first ∧
          record.after.Blocked priority (rest ++ [first.requeuedBy 1]) joined) := by
  have hstamped : ∀ pod ∈ record.returned.map (Pod.stamp record.clock),
      pod.priority < priority := by
    intro pod hmem
    obtain ⟨returned, hreturned, rfl⟩ := List.mem_map.1 hmem
    exact hlow returned hreturned
  obtain ⟨joined, hjoined, hpushed⟩ := hblocked.pushAll htidy hstamped
  have hfilled : record.filled.Blocked priority tier joined := hpushed
  cases h with
  | failed hresult hentry hafter =>
    rw [hafter]
    exact ⟨rfl, joined, hjoined, .inl ⟨⟨hentry, sourceFailed_of_error hresult⟩, hfilled⟩⟩
  | placed hplaced hresult =>
    obtain ⟨hentry, hplacement, hnodes, hafter⟩ :=
      hfilled.placed (tidy_filled htidy) htier hplaced
    rw [hplacement] at hresult
    exact ⟨hnodes, joined, hjoined, .inr ⟨⟨hentry, _, hresult, rfl⟩, hafter⟩⟩

end TickRecord

/-- What ticks have made of a cluster whose first tier is blocked. -/
structure Rotation (cluster : Cluster) (priority : Int32) (tier lower : List QueuedPod)
    (more : List TickRecord) (after : Cluster) : Prop where
  nodes_eq : after.nodes = cluster.nodes
  ticks : ∀ record ∈ more, record.after.nodes = cluster.nodes ∧
    (record.Failed ∨ ∃ entry, entry.pod.priority = priority ∧ record.Requeues entry)
  length_attempts : (attempts more).length = more.countP (!·.sourceFailed)
  attempts_eq : ∀ n < (attempts more).length,
    (attempts more)[n]? = tier[n % tier.length]?.map (·.requeuedBy (n / tier.length))
  blocked : ∃ joined, Joined lower joined ∧
    after.Blocked priority (turned tier (attempts more).length) joined

namespace Rotation

variable {cluster : Cluster} {priority : Int32} {tier lower joined : List QueuedPod}
  {records : List TickRecord} {record : TickRecord}

theorem start (h : cluster.Blocked priority tier lower) :
    Rotation cluster priority tier lower [] cluster := by
  refine ⟨rfl, by simp, rfl, by simp [attempts], lower, .refl lower, ?_⟩
  have hturned := turned_zero h.tier_ne_nil
  rwa [show turned tier (attempts []).length = tier from hturned]

theorem ticks_concat (h : Rotation cluster priority tier lower records record.before)
    (hnodes : record.after.nodes = record.before.nodes)
    (hlast : record.Failed ∨ ∃ entry, entry.pod.priority = priority ∧ record.Requeues entry) :
    ∀ other ∈ records ++ [record], other.after.nodes = cluster.nodes ∧
      (other.Failed ∨ ∃ entry, entry.pod.priority = priority ∧ other.Requeues entry) := by
  have hrecord : record.after.nodes = cluster.nodes := hnodes.trans h.nodes_eq
  exact List.forall_mem_append.2 ⟨h.ticks, List.forall_mem_singleton.2 ⟨hrecord, hlast⟩⟩

/-- A tick in which a source fails has no turn. -/
theorem failed (h : Rotation cluster priority tier lower records record.before)
    (hnodes : record.after.nodes = record.before.nodes) (hfailed : record.Failed)
    (hjoined : Joined lower joined)
    (hafter : record.after.Blocked priority (turned tier (attempts records).length) joined) :
    Rotation cluster priority tier lower (records ++ [record]) record.after := by
  have hattempts : attempts (records ++ [record]) = attempts records := by
    rw [attempts_concat, hfailed.1]
    exact List.append_nil _
  refine ⟨hnodes.trans h.nodes_eq, h.ticks_concat hnodes (.inl hfailed), ?_,
    hattempts ▸ h.attempts_eq, ?_⟩
  · rw [hattempts, h.length_attempts, List.countP_append, List.countP_singleton, hfailed.2]
    rfl
  · rw [hattempts]
    exact ⟨joined, hjoined, hafter⟩

/-- Any other tick is the turn of the entry that comes next. -/
theorem requeued (h : Rotation cluster priority tier lower records record.before)
    (hnodes : record.after.nodes = record.before.nodes) {first : QueuedPod}
    (hfirst : tier[(attempts records).length % tier.length]?.map
      (·.requeuedBy ((attempts records).length / tier.length)) = some first)
    (hpriority : first.pod.priority = priority) (hrequeues : record.Requeues first)
    (hjoined : Joined lower joined)
    (hafter : record.after.Blocked priority (turned tier ((attempts records).length + 1)) joined) :
    Rotation cluster priority tier lower (records ++ [record]) record.after := by
  have hattempts : attempts (records ++ [record]) = attempts records ++ [first] := by
    rw [attempts_concat, hrequeues.1]
    rfl
  obtain ⟨summary, hresult, -⟩ := hrequeues.2
  refine ⟨hnodes.trans h.nodes_eq, h.ticks_concat hnodes (.inr ⟨first, hpriority, hrequeues⟩),
    ?_, ?_, ?_⟩
  · rw [hattempts, List.length_append, h.length_attempts, List.countP_append,
      List.countP_singleton, TickRecord.sourceFailed_of_ok hresult]
    rfl
  · intro n hlt
    rw [hattempts, List.length_append, List.length_singleton] at hlt
    by_cases hold : n < (attempts records).length
    · rw [hattempts, List.getElem?_append_left hold]
      exact h.attempts_eq n hold
    · have heq : n = (attempts records).length := by omega
      rw [hattempts, heq, List.getElem?_concat_length, hfirst]
  · rw [hattempts, List.length_append, List.length_singleton]
    exact ⟨joined, hjoined, hafter⟩

end Rotation

theorem Course.rotation {cluster after : Cluster} {more : List TickRecord}
    (h : Course cluster more after) (htidy : PodQueue.Tidy cluster.queue.tiers)
    {priority : Int32} {tier lower : List QueuedPod}
    (hblocked : cluster.Blocked priority tier lower)
    (hlow : ∀ record ∈ more, ∀ pod ∈ record.returned, pod.priority < priority) :
    Rotation cluster priority tier lower more after := by
  induction h using lawful_induction with
  | start => exact .start hblocked
  | @next records record past lawful _ ih =>
    obtain ⟨hlowPast, hlowLast⟩ := List.forall_mem_append.1 hlow
    have hpast := ih hlowPast
    obtain ⟨middle, hmiddle, hbefore⟩ := hpast.blocked
    obtain ⟨first, rest, hfirst, hturned, hnext⟩ :=
      exists_turned_eq_cons hblocked.tier_ne_nil (attempts records).length
    have hpriority := hbefore.priority_eq first (hturned ▸ List.mem_cons_self)
    obtain ⟨hnodes, joined, hjoined, hcases⟩ := lawful.blocked hbefore (past.tidy htidy)
      (List.forall_mem_singleton.1 hlowLast) hturned
    rcases hcases with ⟨hfailed, hafter⟩ | ⟨hrequeues, hafter⟩
    · exact hpast.failed hnodes hfailed (hmiddle.trans hjoined) hafter
    · exact hpast.requeued hnodes hfirst hpriority hrequeues (hmiddle.trans hjoined)
        (hnext ▸ hafter)

/-- Take any state that ticks have reached in which the pods of the highest priority fit no node.
While only pods of a lower priority are submitted, every tick in which no source fails puts a pod of
this priority back, and no node changes; the pods of this priority are tried in turn and in the
order in which they stood, and stand so again after each whole round, each placed back once more a
round; and those of a lower priority stay as they are. -/
theorem blocked_tier_rotates {nodes : List Node} {strategy : Strategy}
    {records more : List TickRecord} {cluster after : Cluster}
    (h : Course (.new nodes strategy) records cluster) {priority : Int32}
    {tier lower : List QueuedPod} (hblocked : cluster.Blocked priority tier lower)
    (hmore : Course cluster more after)
    (hlow : ∀ record ∈ more, ∀ pod ∈ record.returned, pod.priority < priority) :
    after.nodes = cluster.nodes ∧
    (∀ record ∈ more, record.after.nodes = cluster.nodes ∧
      (record.Failed ∨ ∃ entry, entry.pod.priority = priority ∧ record.Requeues entry)) ∧
    (attempts more).length = more.countP (!·.sourceFailed) ∧
    (∀ n < (attempts more).length,
      (attempts more)[n]? = tier[n % tier.length]?.map (·.requeuedBy (n / tier.length))) ∧
    ∃ joined, Joined lower joined ∧ (∀ entry ∈ joined, entry.pod.priority < priority) ∧
      after.queue.toList = turned tier (attempts more).length ++ joined ∧
      ∀ rounds, (attempts more).length = rounds * tier.length →
        after.queue.toList = tier.map (·.requeuedBy rounds) ++ joined := by
  have hrotation := hmore.rotation (h.tidy (Cluster.tidy_new nodes strategy)) hblocked hlow
  obtain ⟨joined, hjoined, hafter⟩ := hrotation.blocked
  refine ⟨hrotation.nodes_eq, hrotation.ticks, hrotation.length_attempts, hrotation.attempts_eq,
    joined, hjoined, hafter.priority_lt, hafter.toList_eq, fun rounds hrounds => ?_⟩
  rw [hafter.toList_eq, hrounds, turned_mul hblocked.tier_ne_nil]

/-- Two pods that are too big take turns before a pod that fits, and before one that comes later. -/
theorem blocked_tier_rotates_whole_round :
    let big : Pod := .new ⟨7⟩ "big" (.ofList [("cpu", 1001)]) 5
    let huge : Pod := .new ⟨8⟩ "huge" (.ofList [("cpu", 4000)]) 5
    let web : Pod := .new ⟨9⟩ "web" (.ofList [("cpu", 300)]) 0
    let job : Pod := .new ⟨1⟩ "job" (.ofList [("cpu", 300)]) 4
    let origin : Cluster := .new [.new "node-a" (.ofList [("cpu", 1000)])] .mostAllocated
    let first := origin.record 1 .epoch .fresh [Script.mk [[big, web, huge]]]
    let second := first.after.record 2 .epoch .fresh [Script.mk [[job]]]
    let third := second.after.record 3 .epoch .fresh [Script.mk [[web]]]
    let tier := [⟨huge.stamp .epoch, 2, 0⟩, ⟨big.stamp .epoch, 0, 1⟩]
    first.after.Blocked 5 tier [⟨web.stamp .epoch, 1, 0⟩] ∧
    third.after.nodes = first.after.nodes ∧
    ∃ joined, third.after.queue.toList =
      [⟨huge.stamp .epoch, 2, 1⟩, ⟨big.stamp .epoch, 0, 2⟩] ++ joined := by
  intro big huge web job origin first second third tier
  have hfirst : Course origin [first] first.after :=
    Course.start.next_record 1 .epoch .fresh [Script.mk [[big, web, huge]]]
  have hsecond : Course first.after [second] second.after :=
    Course.start.next_record 2 .epoch .fresh [Script.mk [[job]]]
  have hthird : Course first.after [second, third] third.after :=
    hsecond.next_record 3 .epoch .fresh [Script.mk [[web]]]
  have hhuge : first.after.strategy.schedule (huge.stamp .epoch)
      (first.after.snapshots .epoch) = .doesNotFit ⟨8⟩ := by decide
  have hbig : first.after.strategy.schedule (big.stamp .epoch)
      (first.after.snapshots .epoch) = .doesNotFit ⟨7⟩ := by decide
  have hblocked : first.after.Blocked 5 tier [⟨web.stamp .epoch, 1, 0⟩] := by
    refine ⟨by decide, by decide, by decide, by decide, fun entry hmem => ?_⟩
    rcases List.mem_cons.1 hmem with rfl | hmem
    · exact (Cluster.schedule_eq_doesNotFit_iff.1 hhuge).2
    · rw [List.mem_singleton.1 hmem]
      exact (Cluster.schedule_eq_doesNotFit_iff.1 hbig).2
  obtain ⟨hnodes, -, -, -, joined, -, -, -, hround⟩ :=
    blocked_tier_rotates hfirst hblocked hthird (by decide)
  exact ⟨hblocked, hnodes, joined, hround 1 (by decide)⟩

end ClusterSim
