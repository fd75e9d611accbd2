import ClusterSim.Proofs.Tick.Blocking

/-!
# Placement comes to rest

When no more pods are submitted, each pending pod is tried at most once before the nodes stay as
they are: the pods of the first tier are either bound one after the other, which uncovers the next
tier, or one of them is left behind that fits nowhere, and then the tier is blocked when all its
pods have been tried (`Sweep`). Main statement: `placement_settles`.
-/

namespace ClusterSim

namespace Cluster

/-! ### One pass over a tier -/

/-- The pods of the first tier: some still to be tried in this pass, then some that were tried and
fit nowhere. -/
structure Sweep (cluster : Cluster) (priority : Int32) (fresh stale lower : List QueuedPod) :
    Prop where
  toList_eq : cluster.queue.toList = fresh ++ (stale ++ lower)
  front_ne_nil : fresh ++ stale ≠ []
  priority_eq : ∀ entry ∈ fresh ++ stale, entry.pod.priority = priority
  priority_lt : ∀ entry ∈ lower, entry.pod.priority < priority
  rejects : ∀ entry ∈ stale, cluster.Rejects entry.pod

/-- How many pods are tried at most until nothing is left to bind: once a pod has been placed back,
those of a lower priority have no turn any more. -/
def work (fresh stale lower : List QueuedPod) : Nat :=
  fresh.length + if stale = [] then lower.length else 0

/-- After so many attempts at most the queue is empty or its first tier is blocked. -/
def SettlesWithin (cluster : Cluster) (n : Nat) : Prop :=
  cluster.queue.toList = [] ∨
    ∃ priority fresh stale lower, cluster.Sweep priority fresh stale lower ∧
      work fresh stale lower ≤ n

variable {cluster after : Cluster} {priority : Int32} {n : Nat}

theorem Blocked.sweep {tier lower : List QueuedPod} (h : cluster.Blocked priority tier lower) :
    cluster.Sweep priority [] tier lower :=
  ⟨h.toList_eq, h.tier_ne_nil, h.priority_eq, h.priority_lt, h.rejects⟩

theorem Sweep.blocked {stale lower : List QueuedPod} (h : cluster.Sweep priority [] stale lower) :
    cluster.Blocked priority stale lower :=
  ⟨h.toList_eq, h.front_ne_nil, h.priority_eq, h.priority_lt, h.rejects⟩

theorem Blocked.settlesWithin {tier lower : List QueuedPod}
    (h : cluster.Blocked priority tier lower) (n : Nat) : cluster.SettlesWithin n := by
  refine .inr ⟨priority, [], tier, lower, h.sweep, ?_⟩
  simp [work, h.tier_ne_nil]

theorem SettlesWithin.mono {m : Nat} (h : cluster.SettlesWithin n) (hle : n ≤ m) :
    cluster.SettlesWithin m := by
  rcases h with hempty | ⟨priority, fresh, stale, lower, hsweep, hwork⟩
  · exact .inl hempty
  · exact .inr ⟨priority, fresh, stale, lower, hsweep, Nat.le_trans hwork hle⟩

/-- No pending pod has to be tried more than once. -/
theorem settlesWithin_length (h : PodQueue.Tidy cluster.queue.tiers) :
    cluster.SettlesWithin cluster.queue.toList.length := by
  rcases h.toList_cases with hempty | ⟨priority, front, lower, hlist, hfront, hsame, hlower⟩
  · exact .inl hempty
  · refine .inr ⟨priority, front, [], lower, ⟨hlist, by simpa, by simpa, hlower, by simp⟩, ?_⟩
    simp [work, hlist]

theorem SettlesWithin.settled (h : cluster.SettlesWithin 0) :
    cluster.queue.toList = [] ∨ ∃ priority tier lower, cluster.Blocked priority tier lower := by
  rcases h with hempty | ⟨priority, fresh, stale, lower, hsweep, hwork⟩
  · exact .inl hempty
  · have hfresh : fresh = [] := by
      refine List.length_eq_zero_iff.1 ?_
      unfold work at hwork
      omega
    subst hfresh
    exact .inr ⟨priority, stale, lower, hsweep.blocked⟩

/-- The first pod that is still to be tried leaves, or goes behind those that fit nowhere. -/
theorem Sweep.placed {first : QueuedPod} {rest stale lower : List QueuedPod}
    (h : cluster.Sweep priority (first :: rest) stale lower)
    (htidy : PodQueue.Tidy cluster.queue.tiers) {now : Instant} {entry : Option QueuedPod}
    {placement : Except TickError Placement} (hplaced : Placed cluster now after entry placement) :
    after.SettlesWithin (work rest stale lower) := by
  have hlist : cluster.queue.toList = first :: (rest ++ (stale ++ lower)) := h.toList_eq
  have hstale : ∀ other ∈ stale, after.Rejects other.pod := fun other hmem =>
    (h.rejects other hmem).placed hplaced
  have hpriority : ∀ other ∈ rest ++ stale, other.pod.priority = priority := fun other hmem =>
    h.priority_eq other (List.mem_cons_of_mem _ hmem)
  have hfirst : (first.requeuedBy 1).pod.priority = priority :=
    h.priority_eq first List.mem_cons_self
  obtain ⟨-, ⟨hrejects, -, -, hafter⟩ | ⟨-, hafter⟩⟩ := hplaced.of_cons htidy hlist
  · have hback : after.Rejects (first.requeuedBy 1).pod := hrejects.placed hplaced
    refine .inr ⟨priority, rest, stale ++ [first.requeuedBy 1], lower,
      ⟨?_, by simp, ?_, h.priority_lt, ?_⟩, ?_⟩
    · rw [hafter, ← List.append_assoc,
        PendingList.insertEntry_behind hfirst hpriority h.priority_lt]
      simp
    · rw [← List.append_assoc]
      exact List.forall_mem_append.2 ⟨hpriority, List.forall_mem_singleton.2 hfirst⟩
    · exact List.forall_mem_append.2 ⟨hstale, List.forall_mem_singleton.2 hback⟩
    · simp [work]
  · by_cases hlast : rest ++ stale = []
    · -- the tier is used up, and the next one has its first turn
      obtain ⟨rfl, rfl⟩ := List.append_eq_nil_iff.1 hlast
      have hlower := settlesWithin_length (hplaced.tidy htidy)
      rw [hafter] at hlower
      exact hlower.mono (by simp [work])
    · exact .inr ⟨priority, rest, stale, lower,
        ⟨hafter, hlast, hpriority, h.priority_lt, hstale⟩, Nat.le_refl _⟩

/-- Every attempt counts. -/
theorem SettlesWithin.placed (h : cluster.SettlesWithin n)
    (htidy : PodQueue.Tidy cluster.queue.tiers) {now : Instant} {entry : Option QueuedPod}
    {placement : Except TickError Placement} (hplaced : Placed cluster now after entry placement) :
    after.SettlesWithin (n - 1) := by
  rcases h with hempty | ⟨priority, fresh, stale, lower, hsweep, hwork⟩
  · obtain ⟨-, -, rfl⟩ := hplaced.of_nil hempty
    exact .inl hempty
  · cases fresh with
    | nil =>
      obtain ⟨first, rest, hstale⟩ := List.exists_cons_of_ne_nil hsweep.front_ne_nil
      obtain ⟨-, -, -, hblocked⟩ := hsweep.blocked.placed htidy hstale hplaced
      exact hblocked.settlesWithin _
    | cons first rest =>
      refine (hsweep.placed htidy hplaced).mono ?_
      simp only [work, List.length_cons] at hwork ⊢
      omega

end Cluster

/-! ### Ticks without new pods -/

namespace TickRecord

variable {record : TickRecord}

/-- No pod was pending. -/
def Idles (record : TickRecord) : Prop :=
  record.entry = none ∧ ∃ summary, record.result = .ok summary ∧ summary.placement = .idle

/-- The tick bound a pod. -/
def Binds (record : TickRecord) : Prop :=
  ∃ summary id name, record.result = .ok summary ∧ summary.placement = .bound id name

theorem Failed.not_binds (h : record.Failed) : ¬ record.Binds := by
  rintro ⟨summary, id, name, hresult, -⟩
  cases (sourceFailed_of_ok hresult).symm.trans h.2

theorem not_binds_of_ok {summary : TickSummary} (h : record.result = .ok summary)
    (hplacement : ∀ id name, summary.placement ≠ .bound id name) : ¬ record.Binds := by
  rintro ⟨other, id, name, hresult, hbound⟩
  cases h.symm.trans hresult
  exact hplacement id name hbound

theorem Idles.not_binds (h : record.Idles) : ¬ record.Binds := by
  obtain ⟨-, summary, hresult, hidle⟩ := h
  exact not_binds_of_ok hresult (by simp [hidle])

theorem Requeues.not_binds {entry : QueuedPod} (h : record.Requeues entry) : ¬ record.Binds := by
  obtain ⟨-, summary, hresult, hrequeued⟩ := h
  exact not_binds_of_ok hresult (by simp [hrequeued])

theorem filled_of_returned (h : record.returned = []) : record.filled = record.before := by
  rw [filled, h]
  rfl

theorem Lawful.settlesWithin (h : record.Lawful) (hnone : record.returned = [])
    (htidy : PodQueue.Tidy record.before.queue.tiers) {n : Nat}
    (hbefore : record.before.SettlesWithin n) :
    record.after.SettlesWithin (n - if record.sourceFailed then 0 else 1) := by
  have hfilled := filled_of_returned hnone
  cases h with
  | failed hresult _ hafter =>
    rw [sourceFailed_of_error hresult, hafter, hfilled]
    exact hbefore
  | placed hplaced =>
    rw [hfilled] at hplaced
    refine (hbefore.placed htidy hplaced).mono ?_
    split <;> omega

/-- With no pod pending a tick changes nothing. -/
theorem Lawful.idles (h : record.Lawful) (hnone : record.returned = [])
    (hempty : record.before.queue.toList = []) :
    record.after = record.before ∧ (record.Failed ∨ record.Idles) := by
  have hfilled := filled_of_returned hnone
  cases h with
  | failed hresult hentry hafter =>
    exact ⟨hafter.trans hfilled, .inl ⟨hentry, sourceFailed_of_error hresult⟩⟩
  | placed hplaced hresult =>
    rw [hfilled] at hplaced
    obtain ⟨hentry, rfl, hafter⟩ := hplaced.of_nil hempty
    exact ⟨hafter, .inr ⟨hentry, _, hresult, rfl⟩⟩

end TickRecord

namespace Course

variable {cluster after : Cluster} {records : List TickRecord}

theorem settlesWithin (h : Course cluster records after)
    (htidy : PodQueue.Tidy cluster.queue.tiers)
    (hnone : ∀ record ∈ records, record.returned = []) {n : Nat}
    (hwithin : cluster.SettlesWithin n) :
    after.SettlesWithin (n - records.countP (!·.sourceFailed)) := by
  induction h using lawful_induction with
  | start => exact hwithin
  | @next records record past lawful _ ih =>
    obtain ⟨hpast, hlast⟩ := List.forall_mem_append.1 hnone
    have hstep := lawful.settlesWithin (hlast record List.mem_cons_self) (past.tidy htidy)
      (ih hpast)
    refine hstep.mono ?_
    rw [List.countP_append, List.countP_singleton]
    cases record.sourceFailed with
    | true => exact Nat.le_refl _
    | false =>
      show _ - (_ + 1) ≤ _ - _ - 1
      omega

theorem idles (h : Course cluster records after)
    (hnone : ∀ record ∈ records, record.returned = []) (hempty : cluster.queue.toList = []) :
    after = cluster ∧ ∀ record ∈ records, record.Failed ∨ record.Idles := by
  induction h using lawful_induction with
  | start => exact ⟨rfl, by simp⟩
  | @next records record _ lawful _ ih =>
    obtain ⟨hpast, hlast⟩ := List.forall_mem_append.1 hnone
    obtain ⟨hsame, hticks⟩ := ih hpast
    obtain ⟨hafter, hidles⟩ :=
      lawful.idles (hlast record List.mem_cons_self) (hsame ▸ hempty)
    exact ⟨hafter.trans hsame,
      List.forall_mem_append.2 ⟨hticks, List.forall_mem_singleton.2 hidles⟩⟩

end Course

/-- Take any state that ticks have reached, and from then on ticks in which the sources return no
pods, as many of them without a failing source as pods were pending. Later ticks of this kind bind
no pod and change no node: either no pod is pending and they are idle, or they all put back pods of
one priority. -/
theorem placement_settles {nodes : List Node} {strategy : Strategy}
    {records first later : List TickRecord} {cluster mid after : Cluster}
    (h : Course (.new nodes strategy) records cluster) (hfirst : Course cluster first mid)
    (hlater : Course mid later after) (hnone : ∀ record ∈ first ++ later, record.returned = [])
    (hcount : cluster.queue.toList.length ≤ first.countP (!·.sourceFailed)) :
    after.nodes = mid.nodes ∧ (∀ record ∈ later, ¬ record.Binds) ∧
    (mid.queue.toList = [] ∧ after.queue.toList = [] ∧
        (∀ record ∈ later, record.Failed ∨ record.Idles) ∨
      mid.queue.toList ≠ [] ∧ ∃ priority, ∀ record ∈ later,
        record.Failed ∨ ∃ entry, entry.pod.priority = priority ∧ record.Requeues entry) := by
  have htidy := h.tidy (Cluster.tidy_new nodes strategy)
  obtain ⟨hfirstNone, hlaterNone⟩ := List.forall_mem_append.1 hnone
  have hwithin := hfirst.settlesWithin htidy hfirstNone (Cluster.settlesWithin_length htidy)
  rw [Nat.sub_eq_zero_of_le hcount] at hwithin
  rcases hwithin.settled with hempty | ⟨priority, tier, lower, hblocked⟩
  · obtain ⟨rfl, hidles⟩ := hlater.idles hlaterNone hempty
    refine ⟨rfl, fun record hmem => ?_, .inl ⟨hempty, hempty, hidles⟩⟩
    rcases hidles record hmem with hfailed | hidle
    · exact hfailed.not_binds
    · exact hidle.not_binds
  · have hrotation := hlater.rotation (hfirst.tidy htidy) hblocked fun record hmem pod hpod => by
      rw [hlaterNone record hmem] at hpod
      cases hpod
    refine ⟨hrotation.nodes_eq, fun record hmem => ?_, .inr ⟨?_, priority, fun record hmem =>
      (hrotation.ticks record hmem).2⟩⟩
    · rcases (hrotation.ticks record hmem).2 with hfailed | ⟨entry, -, hrequeues⟩
      · exact hfailed.not_binds
      · exact hrequeues.not_binds
    · rw [hblocked.toList_eq]
      exact List.append_ne_nil_of_left_ne_nil hblocked.tier_ne_nil lower

/-- Of three pods that are pending after a tick, the next three ticks bind one; a later tick puts the
pod back that fits nowhere, and the one behind it stays. -/
theorem placement_settles_after_three :
    let web : Pod := .new ⟨7⟩ "web" (.ofList [("cpu", 300)]) 5
    let big : Pod := .new ⟨8⟩ "big" (.ofList [("cpu", 1001)]) 5
    let api : Pod := .new ⟨9⟩ "api" (.ofList [("cpu", 300)]) 5
    let job : Pod := .new ⟨1⟩ "job" (.ofList [("cpu", 200)]) 0
    let origin : Cluster := .new [.new "node-a" (.ofList [("cpu", 1000)])] .mostAllocated
    let first := origin.record 1 .epoch .fresh [Script.mk [[web, big, api, job]]]
    let second := first.after.record 2 .epoch .fresh [Script.mk []]
    let third := second.after.record 3 .epoch .fresh [Script.mk []]
    let fourth := third.after.record 4 .epoch .fresh [Script.mk []]
    let fifth := fourth.after.record 5 .epoch .fresh [Script.mk []]
    first.after.queue.toList.length = 3 ∧ third.Binds ∧
    ¬ fifth.Binds ∧ fifth.after.nodes = fourth.after.nodes := by
  intro web big api job origin first second third fourth fifth
  have hfirst : Course origin [first] first.after :=
    Course.start.next_record 1 .epoch .fresh [Script.mk [[web, big, api, job]]]
  have hsecond : Course first.after [second] second.after :=
    Course.start.next_record 2 .epoch .fresh [Script.mk []]
  have hthird : Course first.after [second, third] third.after :=
    hsecond.next_record 3 .epoch .fresh [Script.mk []]
  have hfourth : Course first.after [second, third, fourth] fourth.after :=
    hthird.next_record 4 .epoch .fresh [Script.mk []]
  have hfifth : Course fourth.after [fifth] fifth.after :=
    Course.start.next_record 5 .epoch .fresh [Script.mk []]
  have hlength : first.after.queue.toList.length = 3 := by decide
  have hbound : third.result = .ok ⟨3, .epoch, 0, .bound ⟨9⟩ "node-a", 2⟩ := by decide +kernel
  obtain ⟨hnodes, hnone, -⟩ :=
    placement_settles hfirst hfourth hfifth (by decide) (by decide +kernel)
  exact ⟨hlength, ⟨_, _, _, hbound, rfl⟩, hnone fifth (List.mem_singleton.2 rfl), hnodes⟩

end ClusterSim
