import ClusterSim.Scheduler

/-!
# The chosen node is the best candidate

A choice is made among the nodes where the pod fits, and refused exactly if there are none. No
candidate is better than the one that is chosen (`not_isBetter_of_schedule_eq_selected`).
-/

namespace ClusterSim.Strategy

theorem bestOf_mem (best : NodeName × Nat) (candidates : List (NodeName × Nat)) :
    bestOf best candidates ∈ best :: candidates := by
  induction candidates generalizing best with
  | nil => exact List.mem_singleton.2 rfl
  | cons candidate rest ih =>
    unfold bestOf
    split
    · exact List.mem_cons_of_mem _ (ih candidate)
    · rcases List.mem_cons.1 (ih best) with heq | hmem
      · exact List.mem_cons.2 (.inl heq)
      · exact List.mem_cons_of_mem _ (List.mem_cons_of_mem _ hmem)

theorem mem_ranking {strategy : Strategy} {pod : Pod} {nodes : List NodeSnapshot}
    {candidate : NodeName × Nat} (h : candidate ∈ strategy.ranking pod nodes) :
    ∃ node ∈ nodes, node.fits pod ∧ (node.name, strategy.score pod node) = candidate := by
  obtain ⟨node, hmem, heq⟩ := List.mem_map.1 h
  obtain ⟨hnode, hfits⟩ := List.mem_filter.1 hmem
  exact ⟨node, hnode, hfits, heq⟩

theorem ranking_eq_nil_iff {strategy : Strategy} {pod : Pod} {nodes : List NodeSnapshot} :
    strategy.ranking pod nodes = [] ↔ ∀ node ∈ nodes, ¬ node.fits pod := by
  rw [ranking, List.map_eq_nil_iff, List.filter_eq_nil_iff]

/-- A chosen node is one of those given, the pod fits there, and the score is its own. -/
theorem exists_of_schedule_eq_selected {strategy : Strategy} {pod : Pod}
    {nodes : List NodeSnapshot} {name : NodeName} {score feasible : Nat}
    (h : strategy.schedule pod nodes = .selected name score feasible) :
    ∃ node ∈ nodes, node.fits pod ∧ node.name = name ∧ strategy.score pod node = score := by
  unfold schedule at h
  split at h
  · cases h
  · rename_i first rest hranking
    have hmem := bestOf_mem first rest
    rw [← hranking] at hmem
    obtain ⟨node, hnode, hfits, heq⟩ := mem_ranking hmem
    injection h with hname hscore
    exact ⟨node, hnode, hfits, by rw [← hname, ← heq], by rw [← hscore, ← heq]⟩

/-- No node is chosen exactly if the pod fits on none. -/
theorem schedule_eq_doesNotFit_iff {strategy : Strategy} {pod : Pod} {nodes : List NodeSnapshot}
    {id : PodId} :
    strategy.schedule pod nodes = .doesNotFit id ↔
      id = pod.id ∧ ∀ node ∈ nodes, ¬ node.fits pod := by
  have hnil : strategy.ranking pod nodes = [] ↔ ∀ node ∈ nodes, ¬ node.fits pod :=
    ranking_eq_nil_iff
  rw [← hnil, schedule]
  cases strategy.ranking pod nodes with
  | nil =>
    show Decision.doesNotFit pod.id = .doesNotFit id ↔ _
    rw [Decision.doesNotFit.injEq]
    exact ⟨fun heq => ⟨heq.symm, rfl⟩, fun h => h.1.symm⟩
  | cons first rest =>
    constructor
    · intro h
      cases h
    · intro h
      cases h.2

/-! ### The best candidate -/

/-- One candidate is not better than another if its score is lower, or the same and its name not
smaller. -/
theorem not_isBetter_iff {candidate other : NodeName × Nat} :
    ¬ isBetter candidate other ↔
      candidate.2 < other.2 ∨ candidate.2 = other.2 ∧ other.1 ≤ candidate.1 := by
  unfold isBetter
  simp only [Bool.or_eq_true, Bool.and_eq_true, decide_eq_true_eq]
  constructor
  · intro h
    by_cases hlt : candidate.2 < other.2
    · exact .inl hlt
    · have heq : candidate.2 = other.2 := by omega
      exact .inr ⟨heq, String.not_lt.1 fun hname => h (.inr ⟨heq, hname⟩)⟩
  · rintro (hlt | ⟨heq, hname⟩) (hbetter | ⟨hsame, hsmaller⟩)
    · omega
    · omega
    · omega
    · exact String.not_lt.2 hname hsmaller

theorem not_isBetter_trans {first second third : NodeName × Nat} (hfirst : ¬ isBetter first second)
    (hsecond : ¬ isBetter second third) : ¬ isBetter first third := by
  rw [not_isBetter_iff] at *
  rcases hfirst with hlt | ⟨heq, hname⟩
  · refine .inl ?_
    omega
  · rcases hsecond with hlt | ⟨hsame, hother⟩
    · exact .inl (by omega)
    · exact .inr ⟨heq.trans hsame, String.le_trans hother hname⟩

theorem not_isBetter_self (candidate : NodeName × Nat) : ¬ isBetter candidate candidate := by
  rw [not_isBetter_iff]
  exact .inr ⟨rfl, String.le_refl _⟩

theorem not_isBetter_of_isBetter {candidate other : NodeName × Nat} (h : isBetter candidate other) :
    ¬ isBetter other candidate := by
  intro hback
  unfold isBetter at h hback
  simp only [Bool.or_eq_true, Bool.and_eq_true, decide_eq_true_eq] at h hback
  rcases h with hlt | ⟨heq, hname⟩
  · omega
  · rcases hback with hlt | ⟨-, hother⟩
    · omega
    · exact String.lt_asymm hname hother

/-- No candidate is better than the best one. -/
theorem not_isBetter_bestOf (best : NodeName × Nat) (candidates : List (NodeName × Nat)) :
    ∀ candidate ∈ best :: candidates, ¬ isBetter candidate (bestOf best candidates) := by
  induction candidates generalizing best with
  | nil =>
    intro candidate hmem
    rw [List.mem_singleton.1 hmem]
    exact not_isBetter_self best
  | cons next rest ih =>
    intro candidate hmem
    rw [bestOf]
    -- the better of the first two stays ahead, and the other one is behind it
    by_cases hnext : isBetter next best
    · rw [if_pos hnext]
      rcases List.mem_cons.1 hmem with rfl | hmem
      · exact not_isBetter_trans (not_isBetter_of_isBetter hnext) (ih next next List.mem_cons_self)
      · exact ih next candidate hmem
    · rw [if_neg hnext]
      rcases List.mem_cons.1 hmem with rfl | hmem
      · exact ih candidate candidate List.mem_cons_self
      · rcases List.mem_cons.1 hmem with rfl | hmem
        · exact not_isBetter_trans hnext (ih best best List.mem_cons_self)
        · exact ih best candidate (List.mem_cons_of_mem _ hmem)

/-- No node where the pod fits is better than the one that is chosen. -/
theorem not_isBetter_of_schedule_eq_selected {strategy : Strategy} {pod : Pod}
    {nodes : List NodeSnapshot} {name : NodeName} {score feasible : Nat}
    (h : strategy.schedule pod nodes = .selected name score feasible) {node : NodeSnapshot}
    (hmem : node ∈ nodes) (hfits : node.fits pod) :
    ¬ isBetter (node.name, strategy.score pod node) (name, score) := by
  have hcandidate : (node.name, strategy.score pod node) ∈ strategy.ranking pod nodes :=
    List.mem_map.2 ⟨node, List.mem_filter.2 ⟨hmem, hfits⟩, rfl⟩
  unfold schedule at h
  split at h
  · cases h
  · rename_i first rest hranking
    injection h with hname hscore
    rw [hranking] at hcandidate
    rw [← hname, ← hscore]
    exact not_isBetter_bestOf first rest _ hcandidate

end ClusterSim.Strategy
