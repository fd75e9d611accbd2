import ClusterSim.Proofs.Choice

/-!
# The choice as a greatest element

Scores are compared first and names break ties, so that the choice is the greatest candidate of an
order in which different candidates are never equal. It is therefore determined by the candidates
alone (`IsChoice.unique`): neither the order in which the nodes are given nor a node that is not
chosen has any influence. Main statement: `choice_is_greatest`.
-/

namespace ClusterSim

namespace Strategy

variable {strategy : Strategy} {pod : Pod} {nodes others : List NodeSnapshot}

/-- A name and a score belong to a node where the pod fits, and each node where it fits has a lower
score, or the same score and a name that is not smaller. -/
structure IsChoice (strategy : Strategy) (pod : Pod) (nodes : List NodeSnapshot) (name : NodeName)
    (score : Nat) : Prop where
  exists_node : ∃ node ∈ nodes, node.available.covers pod.demand ∧ node.name = name ∧
    strategy.score pod node = score
  unbeaten : ∀ node ∈ nodes, node.available.covers pod.demand →
    strategy.score pod node < score ∨ strategy.score pod node = score ∧ name ≤ node.name

/-! ### The greatest candidate -/

/-- There is only one greatest candidate, though several nodes may be that candidate. -/
theorem IsChoice.unique {name other : NodeName} {score value : Nat}
    (h : strategy.IsChoice pod nodes name score) (hother : strategy.IsChoice pod nodes other value) :
    name = other ∧ score = value := by
  obtain ⟨node, hmem, hfits, rfl, rfl⟩ := h.exists_node
  obtain ⟨rival, hrival, hrivalfits, rfl, rfl⟩ := hother.exists_node
  rcases h.unbeaten rival hrival hrivalfits with hlt | ⟨heq, hname⟩
  · rcases hother.unbeaten node hmem hfits with hback | ⟨hback, -⟩
    · omega
    · omega
  · rcases hother.unbeaten node hmem hfits with hback | ⟨-, hback⟩
    · omega
    · exact ⟨String.le_antisymm hname hback, heq.symm⟩

/-- Only what nodes there are matters, not where in the list they are. -/
theorem IsChoice.of_mem_iff {name : NodeName} {score : Nat}
    (h : strategy.IsChoice pod nodes name score) (hmem : ∀ node, node ∈ others ↔ node ∈ nodes) :
    strategy.IsChoice pod others name score := by
  obtain ⟨node, hnode, hchosen⟩ := h.exists_node
  refine ⟨⟨node, (hmem node).2 hnode, hchosen⟩, fun rival hrival => ?_⟩
  exact h.unbeaten rival ((hmem rival).1 hrival)

/-- A node that is not the greatest candidate can be left out. -/
theorem IsChoice.of_remove {before after : List NodeSnapshot} {node : NodeSnapshot}
    {name : NodeName} {score : Nat}
    (h : strategy.IsChoice pod (before ++ node :: after) name score)
    (hworse : node.available.covers pod.demand →
      (node.name, strategy.score pod node) ≠ (name, score)) :
    strategy.IsChoice pod (before ++ after) name score := by
  obtain ⟨chosen, hmem, hfits, rfl, rfl⟩ := h.exists_node
  have hne : chosen ≠ node := by
    rintro rfl
    exact hworse hfits rfl
  have hleft : chosen ∈ before ++ after := by
    simpa [hne] using hmem
  refine ⟨⟨chosen, hleft, hfits, rfl, rfl⟩, fun rival hrival => ?_⟩
  apply h.unbeaten rival
  rcases List.mem_append.1 hrival with hbefore | hafter
  · exact List.mem_append_left _ hbefore
  · exact List.mem_append_right _ (List.mem_cons_of_mem _ hafter)

/-! ### What is chosen -/

/-- All nodes where the pod fits are counted. -/
theorem feasible_of_schedule_eq_selected {name : NodeName} {score feasible : Nat}
    (h : strategy.schedule pod nodes = .selected name score feasible) :
    feasible = nodes.countP (·.fits pod) := by
  have hlength : (strategy.ranking pod nodes).length = nodes.countP (·.fits pod) := by
    rw [ranking, List.length_map, List.countP_eq_length_filter]
  unfold schedule at h
  split at h
  · cases h
  · rename_i first rest hranking
    injection h with _ _ hfeasible
    rw [← hlength, hranking, ← hfeasible, List.length_cons]

theorem isChoice_of_schedule_eq_selected {name : NodeName} {score feasible : Nat}
    (h : strategy.schedule pod nodes = .selected name score feasible) :
    strategy.IsChoice pod nodes name score := by
  refine ⟨exists_of_schedule_eq_selected h, fun node hmem hfits => ?_⟩
  exact not_isBetter_iff.1 (not_isBetter_of_schedule_eq_selected h hmem hfits)

/-- A node is chosen if there is one where the pod fits. -/
theorem exists_schedule_eq_selected (h : ∃ node ∈ nodes, node.fits pod) :
    ∃ name score, strategy.schedule pod nodes =
      .selected name score (nodes.countP (·.fits pod)) := by
  cases hchoice : strategy.schedule pod nodes with
  | selected name score feasible =>
    exact ⟨name, score, by rw [feasible_of_schedule_eq_selected hchoice]⟩
  | doesNotFit id =>
    obtain ⟨node, hmem, hfits⟩ := h
    exact absurd hfits ((schedule_eq_doesNotFit_iff.1 hchoice).2 node hmem)

/-- The greatest candidate is chosen, and nothing else. -/
theorem schedule_eq_selected_iff {name : NodeName} {score feasible : Nat} :
    strategy.schedule pod nodes = .selected name score feasible ↔
      strategy.IsChoice pod nodes name score ∧ feasible = nodes.countP (·.fits pod) := by
  constructor
  · intro h
    exact ⟨isChoice_of_schedule_eq_selected h, feasible_of_schedule_eq_selected h⟩
  · rintro ⟨h, rfl⟩
    obtain ⟨node, hmem, hfits, -, -⟩ := h.exists_node
    obtain ⟨other, value, hchoice⟩ : ∃ other value, strategy.schedule pod nodes =
        .selected other value (nodes.countP (·.fits pod)) :=
      exists_schedule_eq_selected ⟨node, hmem, hfits⟩
    obtain ⟨rfl, rfl⟩ := h.unique (isChoice_of_schedule_eq_selected hchoice)
    exact hchoice

/-! ### Other lists of nodes -/

/-- The decision does not depend on the order of the nodes. -/
theorem schedule_perm (h : nodes.Perm others) :
    strategy.schedule pod others = strategy.schedule pod nodes := by
  cases hchoice : strategy.schedule pod nodes with
  | selected name score feasible =>
    obtain ⟨hbest, rfl⟩ := schedule_eq_selected_iff.1 hchoice
    refine schedule_eq_selected_iff.2 ⟨hbest.of_mem_iff fun node => h.mem_iff.symm, ?_⟩
    exact h.countP_eq _
  | doesNotFit id =>
    obtain ⟨rfl, hnone⟩ := schedule_eq_doesNotFit_iff.1 hchoice
    exact schedule_eq_doesNotFit_iff.2 ⟨rfl, fun node hmem => hnone node (h.mem_iff.2 hmem)⟩

/-- A node where the pod does not fit has no influence on the decision. -/
theorem schedule_remove_of_not_fits (before after : List NodeSnapshot) {node : NodeSnapshot}
    (h : ¬ node.fits pod) :
    strategy.schedule pod (before ++ after) = strategy.schedule pod (before ++ node :: after) := by
  have hranking : strategy.ranking pod (before ++ after) =
      strategy.ranking pod (before ++ node :: after) := by
    simp [ranking, h]
  unfold schedule
  rw [hranking]

/-- If one of several nodes where the pod fits is left out, and it is not the greatest candidate,
the choice stays and one node less is counted. -/
theorem schedule_remove_of_fits {before after : List NodeSnapshot} {node : NodeSnapshot}
    {name : NodeName} {score feasible : Nat}
    (h : strategy.schedule pod (before ++ node :: after) = .selected name score feasible)
    (hfits : node.fits pod) (hworse : (node.name, strategy.score pod node) ≠ (name, score)) :
    strategy.schedule pod (before ++ after) = .selected name score (feasible - 1) := by
  obtain ⟨hbest, rfl⟩ := schedule_eq_selected_iff.1 h
  refine schedule_eq_selected_iff.2 ⟨hbest.of_remove fun _ => hworse, ?_⟩
  simp [hfits]

end Strategy

/-- A pod is refused, under its own identity, exactly if no node has its demand available. Otherwise
the decision names the greatest candidate and its score, and counts the nodes where the pod fits.
So the order of the nodes makes no difference; a node where the pod does not fit can be left out;
and any other node that is not the greatest candidate can be left out too, and is then not
counted. -/
theorem choice_is_greatest (strategy : Strategy) (pod : Pod) (nodes : List NodeSnapshot) :
    (strategy.schedule pod nodes = .doesNotFit pod.id ↔
      ∀ node ∈ nodes, ¬ node.available.covers pod.demand) ∧
    ((∃ node ∈ nodes, node.available.covers pod.demand) → ∃ name score,
      strategy.schedule pod nodes =
        .selected name score (nodes.countP fun node => node.available.covers pod.demand) ∧
      strategy.IsChoice pod nodes name score) ∧
    (∀ others, nodes.Perm others →
      strategy.schedule pod others = strategy.schedule pod nodes) ∧
    ∀ before node after, nodes = before ++ node :: after →
      (¬ node.available.covers pod.demand →
        strategy.schedule pod (before ++ after) = strategy.schedule pod nodes) ∧
      ∀ name score feasible, node.available.covers pod.demand →
        strategy.schedule pod nodes = .selected name score feasible →
        (node.name, strategy.score pod node) ≠ (name, score) →
        strategy.schedule pod (before ++ after) = .selected name score (feasible - 1) := by
  refine ⟨?_, fun hsome => ?_, fun others hperm => Strategy.schedule_perm hperm, ?_⟩
  · rw [Strategy.schedule_eq_doesNotFit_iff]
    exact and_iff_right rfl
  · obtain ⟨name, score, hchoice⟩ := Strategy.exists_schedule_eq_selected hsome
    exact ⟨name, score, hchoice, Strategy.isChoice_of_schedule_eq_selected hchoice⟩
  · rintro before node after rfl
    refine ⟨fun hfits => Strategy.schedule_remove_of_not_fits before after hfits, ?_⟩
    intro name score feasible hfits hchoice hworse
    exact Strategy.schedule_remove_of_fits hchoice hfits hworse

/-- Two nodes have the full score since more is available there than their capacity, and one of them
has the name of a third node with a lower score. The smaller name wins in any order of the nodes,
and with or without the other two. -/
theorem choice_is_greatest_shared_name :
    let view (name : NodeName) (cpu : Amount) : NodeSnapshot :=
      ⟨name, .ofList [("cpu", 1000)], .empty, .ofList [("cpu", cpu)], [], .epoch⟩
    let pod : Pod := .new ⟨7⟩ "web" (.ofList [("cpu", 250)]) 0
    let nodes := [view "node-b" 5000, view "node-a" 900, view "node-c" 100, view "node-a" 7000]
    Strategy.leastAllocated.schedule pod nodes = .selected "node-a" 1000 3 ∧
    Strategy.leastAllocated.schedule pod nodes.reverse = .selected "node-a" 1000 3 ∧
    Strategy.leastAllocated.schedule pod nodes.tail = .selected "node-a" 1000 2 ∧
    Strategy.leastAllocated.schedule pod (nodes.eraseIdx 1) = .selected "node-a" 1000 2 := by
  intro view pod nodes
  have hchoice : Strategy.leastAllocated.schedule pod nodes = .selected "node-a" 1000 3 := by
    decide +kernel
  obtain ⟨-, -, hperm, hremove⟩ := choice_is_greatest .leastAllocated pod nodes
  refine ⟨hchoice, ?_, ?_, ?_⟩
  · rw [hperm nodes.reverse nodes.reverse_perm.symm, hchoice]
  · exact (hremove [] _ _ rfl).2 "node-a" 1000 3 (by decide) hchoice (by decide +kernel)
  · exact (hremove [view "node-b" 5000] _ _ rfl).2 "node-a" 1000 3 (by decide) hchoice
      (by decide +kernel)

end ClusterSim
