import ClusterSim.Proofs.Choice.Score

/-!
# Spreading and packing

Of two nodes of one capacity the one with more available keeps more when a pod is placed, in every
dimension, and so does a node that takes the smaller of two demands. Rounding, the bound by the
whole and the bound of the sum respect that order (`leastAllocated_le`, `mostAllocated_le`), so a
strategy chooses a node against its sense only where scores are equal. Main statement:
`strategies_spread_and_pack`.
-/

namespace ClusterSim

namespace Strategy

variable {strategy : Strategy} {pod other : Pod} {node rival : NodeSnapshot}
  {nodes : List NodeSnapshot}

/-! ### More is left -/

theorem exactShare_mono {capacity available more demand less : ℕ}
    (h : available - demand ≤ more - less) :
    exactShare capacity available demand ≤ exactShare capacity more less := by
  rw [exactShare_eq, exactShare_eq]
  apply min_le_min_left
  apply Nat.div_le_div_right
  exact Nat.mul_le_mul_left 1000 h

/-- Where a pod is placed on one node and another pod on another, at least as much is left in every
dimension on the first. -/
def LeavesMore (pod : Pod) (node : NodeSnapshot) (other : Pod) (rival : NodeSnapshot) : Prop :=
  ∀ d, rival.available.amount d - other.demand.amount d ≤
    node.available.amount d - pod.demand.amount d

theorem leavesMore_of_available (h : node.available.covers rival.available) (pod : Pod) :
    LeavesMore pod node pod rival := by
  intro d
  exact Nat.sub_le_sub_right (Resources.covers_iff.1 h d) _

theorem leavesMore_of_demand (h : other.demand.covers pod.demand) (node : NodeSnapshot) :
    LeavesMore pod node other node := by
  intro d
  exact Nat.sub_le_sub_left (Resources.covers_iff.1 h d) _

theorem scored_eq (hcapacity : node.capacity = rival.capacity) : node.scored = rival.scored := by
  unfold NodeSnapshot.scored
  rw [hcapacity]

/-- Scores of nodes of one capacity compare as their summands do. -/
theorem score_le_score (hcapacity : node.capacity = rival.capacity)
    (h : ∀ d ∈ node.scored, strategy.part pod node d ≤ strategy.part other rival d) :
    strategy.score pod node ≤ strategy.score other rival := by
  rw [score_eq, score_eq, ← scored_eq hcapacity]
  apply min_le_min_left
  exact List.sum_le_sum h

theorem part_le_part (hcapacity : node.capacity = rival.capacity)
    (h : LeavesMore pod node other rival) {d : String} (hmem : d ∈ node.scored) :
    leastAllocated.part other rival d ≤ leastAllocated.part pod node d := by
  have hrival : d ∈ rival.scored := scored_eq hcapacity ▸ hmem
  rw [part_leastAllocated hmem, part_leastAllocated hrival, hcapacity]
  exact exactShare_mono (h d)

/-- Spreading likes it if more is left. -/
theorem leastAllocated_le (hcapacity : node.capacity = rival.capacity)
    (h : LeavesMore pod node other rival) :
    leastAllocated.score other rival ≤ leastAllocated.score pod node := by
  apply score_le_score hcapacity.symm
  intro d hmem
  exact part_le_part hcapacity h (scored_eq hcapacity ▸ hmem)

/-- Packing likes it if less is left. -/
theorem mostAllocated_le (hcapacity : node.capacity = rival.capacity)
    (h : LeavesMore pod node other rival) :
    mostAllocated.score pod node ≤ mostAllocated.score other rival := by
  apply score_le_score hcapacity
  intro d hmem
  rw [part_mostAllocated, part_mostAllocated]
  exact Nat.sub_le_sub_left (part_le_part hcapacity h hmem) 1000

/-! ### The choice between two nodes -/

theorem eq_of_name_eq (hnames : (nodes.map (·.name)).Nodup) (hnode : node ∈ nodes)
    (hrival : rival ∈ nodes) (h : node.name = rival.name) : node = rival :=
  List.inj_on_of_nodup_map hnames hnode hrival h

/-- A node is chosen against another one whose score is not lower only if the scores are equal and
its name is smaller. -/
theorem eq_and_lt_of_schedule_eq_selected {score feasible : ℕ}
    (hnames : (nodes.map (·.name)).Nodup) (hnode : node ∈ nodes) (hrival : rival ∈ nodes)
    (hne : node ≠ rival) (hfits : node.available.covers pod.demand)
    (hle : strategy.score pod rival ≤ strategy.score pod node)
    (hchoice : strategy.schedule pod nodes = .selected rival.name score feasible) :
    strategy.score pod node = strategy.score pod rival ∧ rival.name < node.name := by
  have hbest := isChoice_of_schedule_eq_selected hchoice
  obtain ⟨chosen, hmem, -, hname, hscore⟩ := hbest.exists_node
  obtain rfl : chosen = rival := eq_of_name_eq hnames hmem hrival hname
  rcases hbest.unbeaten node hnode hfits with hlt | ⟨heq, hsmaller⟩
  · omega
  · refine ⟨heq.trans hscore.symm, ?_⟩
    by_contra hlt
    have hsame := String.le_antisymm hsmaller (String.not_lt.1 hlt)
    exact hne (eq_of_name_eq hnames hmem hnode hsame).symm

end Strategy

/-- Spreading gives no lower score, and packing no higher one, to a node that has at least as much
available as another node of the same capacity, and to the smaller of two demands on one node. So
among nodes with different names spreading never chooses a node of which another, where the pod fits
too, has at least as much available in every dimension, and packing never one of which another has
at most as much, unless the scores are equal and the name of the chosen node is smaller. -/
theorem strategies_spread_and_pack :
    (∀ (pod : Pod) (node rival : NodeSnapshot), node.capacity = rival.capacity →
      node.available.covers rival.available →
      Strategy.leastAllocated.score pod rival ≤ Strategy.leastAllocated.score pod node ∧
      Strategy.mostAllocated.score pod node ≤ Strategy.mostAllocated.score pod rival) ∧
    (∀ (pod other : Pod) (node : NodeSnapshot), other.demand.covers pod.demand →
      Strategy.leastAllocated.score other node ≤ Strategy.leastAllocated.score pod node ∧
      Strategy.mostAllocated.score pod node ≤ Strategy.mostAllocated.score other node) ∧
    ∀ (pod : Pod) (nodes : List NodeSnapshot) (node rival : NodeSnapshot) (score feasible : ℕ),
      (nodes.map (·.name)).Nodup → node ∈ nodes → rival ∈ nodes → node ≠ rival →
      node.capacity = rival.capacity → node.available.covers pod.demand →
      (node.available.covers rival.available →
        Strategy.leastAllocated.schedule pod nodes = .selected rival.name score feasible →
        Strategy.leastAllocated.score pod node = Strategy.leastAllocated.score pod rival ∧
        rival.name < node.name) ∧
      (rival.available.covers node.available →
        Strategy.mostAllocated.schedule pod nodes = .selected rival.name score feasible →
        Strategy.mostAllocated.score pod node = Strategy.mostAllocated.score pod rival ∧
        rival.name < node.name) := by
  refine ⟨fun pod node rival hcapacity havailable => ?_, fun pod other node hdemand => ?_, ?_⟩
  · have hmore := Strategy.leavesMore_of_available havailable pod
    exact ⟨Strategy.leastAllocated_le hcapacity hmore, Strategy.mostAllocated_le hcapacity hmore⟩
  · have hmore := Strategy.leavesMore_of_demand hdemand node
    exact ⟨Strategy.leastAllocated_le rfl hmore, Strategy.mostAllocated_le rfl hmore⟩
  · intro pod nodes node rival score feasible hnames hnode hrival hne hcapacity hfits
    constructor
    · intro havailable hchoice
      have hmore := Strategy.leavesMore_of_available havailable pod
      have hle := Strategy.leastAllocated_le hcapacity hmore
      exact Strategy.eq_and_lt_of_schedule_eq_selected hnames hnode hrival hne hfits hle hchoice
    · intro havailable hchoice
      have hmore := Strategy.leavesMore_of_available havailable pod
      have hle := Strategy.mostAllocated_le hcapacity.symm hmore
      exact Strategy.eq_and_lt_of_schedule_eq_selected hnames hnode hrival hne hfits hle hchoice

/-- Between two nodes whose shares differ by less than a thousandth the smaller name wins when the
load is spread, though the other node has more available. Where the scores differ, the smaller name
does not help. -/
theorem strategies_spread_and_pack_rounded :
    let view (name : NodeName) (cpu : Amount) : NodeSnapshot :=
      ⟨name, .ofList [("cpu", 3000)], .empty, .ofList [("cpu", cpu)], [], .epoch⟩
    let pod : Pod := .new ⟨7⟩ "web" (.ofList [("cpu", 1)]) 0
    let big : Pod := .new ⟨8⟩ "job" (.ofList [("cpu", 900)]) 0
    let node := view "node-z" 1001
    let rival := view "node-a" 1000
    let spare := view "node-b" 2000
    Strategy.leastAllocated.schedule pod [node, rival] = .selected "node-a" 333 2 ∧
    Strategy.leastAllocated.score pod node = Strategy.leastAllocated.score pod rival ∧
    Strategy.mostAllocated.score big node ≤ Strategy.mostAllocated.score big rival ∧
    Strategy.leastAllocated.score big node ≤ Strategy.leastAllocated.score pod node ∧
    Strategy.leastAllocated.score pod rival < Strategy.leastAllocated.score pod spare ∧
    Strategy.mostAllocated.score pod spare < Strategy.mostAllocated.score pod node ∧
    ∀ score feasible,
      Strategy.leastAllocated.schedule pod [spare, rival] ≠ .selected "node-a" score feasible ∧
      Strategy.mostAllocated.schedule pod [spare, node] ≠ .selected "node-b" score feasible := by
  intro view pod big node rival spare
  have hchoice : Strategy.leastAllocated.schedule pod [node, rival] =
      .selected rival.name 333 2 := by decide +kernel
  have hspreads : Strategy.leastAllocated.score pod rival <
      Strategy.leastAllocated.score pod spare := by decide +kernel
  have hpacks : Strategy.mostAllocated.score pod spare <
      Strategy.mostAllocated.score pod node := by decide +kernel
  obtain ⟨havailable, hdemand, hlist⟩ := strategies_spread_and_pack
  have hspread := (hlist pod [node, rival] node rival 333 2 (by decide) (by decide) (by decide)
    (by decide) rfl (by decide +kernel)).1 (by decide +kernel) hchoice
  refine ⟨hchoice, hspread.1, (havailable big node rival rfl (by decide +kernel)).2,
    (hdemand pod big node (by decide +kernel)).1, hspreads, hpacks,
    fun score feasible => ⟨fun hrival => ?_, fun hspare => ?_⟩⟩
  · have hequal := (hlist pod [spare, rival] spare rival score feasible (by decide) (by decide)
      (by decide) (by decide) rfl (by decide +kernel)).1 (by decide +kernel) hrival
    exact hspreads.ne' hequal.1
  · have hequal := (hlist pod [spare, node] node spare score feasible (by decide) (by decide)
      (by decide) (by decide) rfl (by decide +kernel)).2 (by decide +kernel) hspare
    exact hpacks.ne' hequal.1

end ClusterSim
