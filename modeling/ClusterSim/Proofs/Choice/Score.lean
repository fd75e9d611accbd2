import ClusterSim.Proofs.Choice.Greatest
import ClusterSim.Proofs.Resources
import Mathlib.Algebra.Order.BigOperators.Group.List
import Mathlib.Algebra.Order.Floor.Semifield
import Mathlib.Data.Rat.Floor

/-!
# Scores are exact

A score goes through integers of 128 bits and is cut to 64 bits at the end. Nothing is lost on the
way in one dimension, and the sum is exact up to the greatest score (`score_eq`). With fewer
dimensions than would reach the greatest score, what the two strategies give to a node adds up to a
thousand for each dimension, so that packing prefers what spreading avoids. Main statement:
`scores_exact_and_dual`.
-/

namespace ClusterSim

/-- The sum with 128 bits is exact as long as the greatest integer is not reached. -/
theorem Wide.foldl_add (terms : List ℕ) {start : ℕ} (h : start ≤ greatest) :
    terms.foldl add start = min greatest (start + terms.sum) := by
  induction terms generalizing start with
  | nil =>
    rw [List.foldl_nil, List.sum_nil]
    omega
  | cons term rest ih =>
    have hnext : add start term ≤ greatest := Nat.min_le_left _ _
    rw [List.foldl_cons, ih hnext, List.sum_cons]
    unfold add
    omega

/-- The dimensions that count for a score: those of which the capacity has some. -/
def NodeSnapshot.scored (node : NodeSnapshot) : List String :=
  node.capacity.dimensions.filter fun d => 0 < node.capacity.amount d

namespace Strategy

variable {strategy : Strategy} {pod : Pod} {node : NodeSnapshot} {d : String}

/-! ### One dimension -/

/-- The share of a capacity, in thousandths and rounded down, that is left of what is available; at
most the whole. -/
def exactShare (capacity available demand : ℕ) : ℕ :=
  min 1000 ⌊1000 * max 0 ((available : ℚ) - demand) / capacity⌋₊

theorem exactShare_eq (capacity available demand : ℕ) :
    exactShare capacity available demand = min 1000 (1000 * (available - demand) / capacity) := by
  have hleft : max 0 ((available : ℚ) - demand) = ((available - demand : ℕ) : ℚ) := by
    rcases le_total demand available with hle | hle
    · rw [max_eq_right (sub_nonneg.2 (Nat.cast_le.2 hle)), Nat.cast_sub hle]
    · rw [max_eq_left (sub_nonpos.2 (Nat.cast_le.2 hle)), Nat.sub_eq_zero_of_le hle, Nat.cast_zero]
  unfold exactShare
  rw [hleft, ← Nat.floor_div_eq_div (K := ℚ)]
  push_cast
  rfl

/-- The product has far less than 128 bits, and the capacity is not zero. -/
theorem freeShare_eq {capacity : Amount} (h : 0 < capacity.toNat) (available demand : Amount) :
    freeShare capacity available demand =
      exactShare capacity.toNat available.toNat demand.toNat := by
  have hsize : UInt64.size * scale ≤ Wide.greatest := by decide
  have hlt : available.toNat < UInt64.size := available.toNat_lt
  have hproduct : (available.toNat - demand.toNat) * scale ≤ Wide.greatest := by
    refine le_trans (Nat.mul_le_mul_right scale ?_) hsize
    omega
  show min scale ((Wide.div? (Wide.mul (available.truncatedSub demand).toNat scale)
    capacity.toNat).getD 0) = _
  rw [Amount.toNat_truncatedSub, Wide.mul_of_le hproduct, Wide.div?_of_pos _ h, exactShare_eq,
    Nat.mul_comm 1000]
  rfl

/-- What a dimension of the capacity contributes to a score. -/
def part (strategy : Strategy) (pod : Pod) (node : NodeSnapshot) (d : String) : ℕ :=
  strategy.share (node.capacity.get d) (node.available.get d) (pod.demand.get d)

theorem capacity_pos_of_mem_scored (h : d ∈ node.scored) : 0 < node.capacity.amount d :=
  of_decide_eq_true (List.mem_filter.1 h).2

theorem part_leastAllocated (h : d ∈ node.scored) :
    leastAllocated.part pod node d =
      exactShare (node.capacity.amount d) (node.available.amount d) (pod.demand.amount d) :=
  freeShare_eq (capacity_pos_of_mem_scored h) _ _

theorem part_mostAllocated (pod : Pod) (node : NodeSnapshot) (d : String) :
    mostAllocated.part pod node d = 1000 - leastAllocated.part pod node d := rfl

theorem part_le (strategy : Strategy) (pod : Pod) (node : NodeSnapshot) (d : String) :
    strategy.part pod node d ≤ 1000 := by
  cases strategy with
  | leastAllocated => exact Nat.min_le_left _ _
  | mostAllocated => exact Nat.sub_le _ _

/-! ### All dimensions -/

/-- The summands of a score, one for each dimension that counts. -/
theorem shares_eq (strategy : Strategy) (pod : Pod) (node : NodeSnapshot) :
    ((node.capacity.toList.filter fun entry => 0 < entry.2).map fun entry =>
        strategy.share entry.2 (node.available.get entry.1) (pod.demand.get entry.1)) =
      node.scored.map (strategy.part pod node) := by
  rw [Resources.toList_eq_map, List.filter_map, List.map_map]
  rfl

/-- Apart from the greatest score nothing limits the sum. -/
theorem score_eq (strategy : Strategy) (pod : Pod) (node : NodeSnapshot) :
    strategy.score pod node = min maxScore (node.scored.map (strategy.part pod node)).sum := by
  have hgreatest : maxScore ≤ Wide.greatest := by decide
  calc strategy.score pod node
      = (Wide.narrow? ((node.scored.map (strategy.part pod node)).foldl Wide.add 0)).getD
          maxScore := by rw [← shares_eq]; rfl
    _ = min maxScore (min Wide.greatest (0 + (node.scored.map (strategy.part pod node)).sum)) := by
        rw [Wide.foldl_add _ (Nat.zero_le _)]
        exact Wide.getD_narrow? _
    _ = min maxScore (node.scored.map (strategy.part pod node)).sum := by omega

/-- Fewer dimensions than would reach the greatest score. -/
def HasRoom (node : NodeSnapshot) : Prop := node.scored.length * 1000 < UInt64.size

theorem sum_parts_le (strategy : Strategy) (pod : Pod) (node : NodeSnapshot) :
    (node.scored.map (strategy.part pod node)).sum ≤ 1000 * node.scored.length := by
  rw [Nat.mul_comm]
  refine (List.sum_le_card_nsmul _ 1000 fun part hmem => ?_).trans (by simp)
  obtain ⟨d, -, rfl⟩ := List.mem_map.1 hmem
  exact part_le strategy pod node d

theorem score_of_hasRoom (h : HasRoom node) (strategy : Strategy) (pod : Pod) :
    strategy.score pod node = (node.scored.map (strategy.part pod node)).sum := by
  have hle := sum_parts_le strategy pod node
  unfold HasRoom at h
  rw [score_eq, maxScore]
  omega

/-- The exact shares that are left of the dimensions that count, added up. -/
def exactScore (pod : Pod) (node : NodeSnapshot) : ℕ :=
  (node.scored.map fun d =>
    exactShare (node.capacity.amount d) (node.available.amount d) (pod.demand.amount d)).sum

theorem score_leastAllocated (h : HasRoom node) (pod : Pod) :
    leastAllocated.score pod node = exactScore pod node := by
  rw [score_of_hasRoom h, exactScore]
  congr 1
  exact List.map_congr_left fun d hmem => part_leastAllocated hmem

/-- In every dimension the two strategies share out a thousand. -/
theorem sum_parts_add (pod : Pod) (node : NodeSnapshot) (dimensions : List String) :
    (dimensions.map (mostAllocated.part pod node)).sum +
      (dimensions.map (leastAllocated.part pod node)).sum = 1000 * dimensions.length := by
  induction dimensions with
  | nil => rfl
  | cons d rest ih =>
    have hle := part_le leastAllocated pod node d
    rw [List.map_cons, List.map_cons, List.sum_cons, List.sum_cons, List.length_cons,
      part_mostAllocated]
    omega

theorem score_mostAllocated (h : HasRoom node) (pod : Pod) :
    mostAllocated.score pod node =
      1000 * node.scored.length - leastAllocated.score pod node := by
  have hsum := sum_parts_add pod node node.scored
  rw [score_of_hasRoom h, score_of_hasRoom h]
  omega

theorem score_le_of_hasRoom (h : HasRoom node) (strategy : Strategy) (pod : Pod) :
    strategy.score pod node ≤ 1000 * node.scored.length := by
  rw [score_of_hasRoom h]
  exact sum_parts_le strategy pod node

/-! ### The choice that packs -/

/-- A name is the smallest among those of the nodes where the pod fits and the score that spreads is
as low as possible. -/
structure IsLowest (pod : Pod) (nodes : List NodeSnapshot) (name : NodeName) (score : ℕ) :
    Prop where
  exists_node : ∃ node ∈ nodes, node.available.covers pod.demand ∧ node.name = name ∧
    leastAllocated.score pod node = score
  score_le : ∀ node ∈ nodes, node.available.covers pod.demand →
    score ≤ leastAllocated.score pod node
  name_le : ∀ node ∈ nodes, node.available.covers pod.demand →
    leastAllocated.score pod node = score → name ≤ node.name

variable {nodes : List NodeSnapshot} {count : ℕ}

/-- The greatest score that packs is the lowest score that spreads if all nodes that are compared
have the same number of dimensions that count. -/
theorem IsChoice.isLowest {name : NodeName} {score : ℕ}
    (h : mostAllocated.IsChoice pod nodes name score) (hcount : count * 1000 < UInt64.size)
    (hsame : ∀ node ∈ nodes, node.available.covers pod.demand → node.scored.length = count) :
    ∃ least, score = 1000 * count - least ∧ IsLowest pod nodes name least := by
  have hroom : ∀ node ∈ nodes, node.available.covers pod.demand → HasRoom node := by
    intro node hmem hfits
    unfold HasRoom
    rwa [hsame node hmem hfits]
  have hmost : ∀ node ∈ nodes, node.available.covers pod.demand →
      mostAllocated.score pod node = 1000 * count - leastAllocated.score pod node ∧
      leastAllocated.score pod node ≤ 1000 * count := by
    intro node hmem hfits
    have hnode := hroom node hmem hfits
    rw [← hsame node hmem hfits]
    exact ⟨score_mostAllocated hnode pod, score_le_of_hasRoom hnode leastAllocated pod⟩
  obtain ⟨chosen, hmem, hfits, rfl, rfl⟩ := h.exists_node
  obtain ⟨hchosen, hle⟩ := hmost chosen hmem hfits
  refine ⟨leastAllocated.score pod chosen, hchosen, ⟨chosen, hmem, hfits, rfl, rfl⟩, ?_, ?_⟩
  · intro node hnode hnodefits
    obtain ⟨hscore, hnodele⟩ := hmost node hnode hnodefits
    rcases h.unbeaten node hnode hnodefits with hlt | ⟨heq, -⟩
    · omega
    · omega
  · intro node hnode hnodefits hequal
    obtain ⟨hscore, -⟩ := hmost node hnode hnodefits
    rcases h.unbeaten node hnode hnodefits with hlt | ⟨-, hname⟩
    · omega
    · exact hname

end Strategy

/-- If a thousand for each dimension of which a node has some capacity stays below `2 ^ 64`, the
score that spreads is the exact sum of the shares that are left, and the score that packs is what is
missing to a thousand for each of these dimensions. So among nodes with the same number of them
packing chooses the smallest name of those where the score that spreads is lowest. -/
theorem scores_exact_and_dual (pod : Pod) :
    (∀ node : NodeSnapshot, node.scored.length * 1000 < UInt64.size →
      Strategy.leastAllocated.score pod node = Strategy.exactScore pod node ∧
      Strategy.leastAllocated.score pod node ≤ 1000 * node.scored.length ∧
      Strategy.mostAllocated.score pod node =
        1000 * node.scored.length - Strategy.leastAllocated.score pod node) ∧
    ∀ (nodes : List NodeSnapshot) (count : ℕ), count * 1000 < UInt64.size →
      (∀ node ∈ nodes, node.available.covers pod.demand → node.scored.length = count) →
      (∃ node ∈ nodes, node.available.covers pod.demand) →
      ∃ name least,
        Strategy.mostAllocated.schedule pod nodes =
          .selected name (1000 * count - least)
            (nodes.countP fun node => node.available.covers pod.demand) ∧
        Strategy.IsLowest pod nodes name least := by
  refine ⟨fun node hroom => ?_, fun nodes count hcount hsame hsome => ?_⟩
  · exact ⟨Strategy.score_leastAllocated hroom pod,
      Strategy.score_le_of_hasRoom hroom .leastAllocated pod,
      Strategy.score_mostAllocated hroom pod⟩
  · obtain ⟨name, score, hchoice⟩ := Strategy.exists_schedule_eq_selected hsome
    obtain ⟨least, rfl, hlowest⟩ :=
      (Strategy.isChoice_of_schedule_eq_selected hchoice).isLowest hcount hsame
    exact ⟨name, least, hchoice, hlowest⟩

/-- Three nodes with two dimensions that count and one that does not. On one of them more is
available than its capacity; the other two have the lower score that spreads. -/
theorem scores_exact_and_dual_three_nodes :
    let view (name : NodeName) (cpu memory : Amount) : NodeSnapshot :=
      ⟨name, .ofList [("cpu", 1000), ("gpu", 0), ("memory", 3)], .empty,
        .ofList [("cpu", cpu), ("memory", memory)], [], .epoch⟩
    let pod : Pod := .new ⟨7⟩ "web" (.ofList [("cpu", 333), ("memory", 1)]) 0
    let nodes := [view "node-c" 777 3, view "node-b" 5000 2, view "node-a" 777 3]
    Strategy.exactScore pod (view "node-b" 5000 2) = 1333 ∧
    Strategy.mostAllocated.score pod (view "node-b" 5000 2) = 667 ∧
    Strategy.IsLowest pod nodes "node-a" 1110 := by
  intro view pod nodes
  obtain ⟨hexact, -, hmost⟩ :=
    (scores_exact_and_dual pod).1 (view "node-b" 5000 2) (by decide +kernel)
  have hleast : Strategy.leastAllocated.score pod (view "node-b" 5000 2) = 1333 := by
    decide +kernel
  have hlength : (view "node-b" 5000 2).scored.length = 2 := by decide +kernel
  refine ⟨by rw [← hexact, hleast], by rw [hmost, hleast, hlength], ?_⟩
  obtain ⟨name, least, hchoice, hlowest⟩ :=
    (scores_exact_and_dual pod).2 nodes 2 (by decide) (by decide +kernel) (by decide +kernel)
  have hnodes : Strategy.mostAllocated.schedule pod nodes = .selected "node-a" 890 3 := by
    decide +kernel
  obtain ⟨rfl, hscore, -⟩ := Decision.selected.inj (hchoice.symm.trans hnodes)
  obtain rfl : least = 1110 := by omega
  exact hlowest

end ClusterSim
