import ClusterSim.Node
import ClusterSim.Wide

/-!
# Choosing a node

Among the nodes where a pod fits, the one with the highest score is chosen, and of several the one
with the smallest name. The score adds up, over the dimensions of the capacity that are not zero,
the share that would be left free, in thousandths, or the share in use. It is computed with 128 bits
and then cut to 64.
-/

namespace ClusterSim

/-- How nodes are ranked. -/
inductive Strategy where
  /-- The node with most left is best: load is spread. -/
  | leastAllocated
  /-- The node with least left is best: load is packed. -/
  | mostAllocated
deriving DecidableEq, Inhabited

/-- The outcome of a choice. -/
inductive Decision where
  /-- A node was chosen among so many where the pod fits. -/
  | selected (node : NodeName) (score feasible : Nat)
  /-- The pod fits nowhere. -/
  | doesNotFit (pod : PodId)
deriving DecidableEq

namespace Strategy

/-- A whole dimension, in thousandths. -/
def scale : Nat := 1000

/-- The greatest score. -/
def maxScore : Nat := UInt64.size - 1

/-- The share of the capacity, in thousandths, that is free when the demand is met. -/
def freeShare (capacity available demand : Amount) : Nat :=
  let left := Amount.truncatedSub available demand
  min scale ((Wide.div? (Wide.mul left.toNat scale) capacity.toNat).getD 0)

/-- What one dimension contributes to the score. -/
def share (strategy : Strategy) (capacity available demand : Amount) : Nat :=
  match strategy with
  | .leastAllocated => freeShare capacity available demand
  | .mostAllocated => scale - freeShare capacity available demand

/-- The score of a node for a pod. -/
def score (strategy : Strategy) (pod : Pod) (node : NodeSnapshot) : Nat :=
  let counted := node.capacity.toList.filter fun entry => 0 < entry.2
  let shares := counted.map fun entry =>
    strategy.share entry.2 (node.available.get entry.1) (pod.demand.get entry.1)
  (Wide.narrow? (shares.foldl Wide.add 0)).getD maxScore

/-- The nodes where a pod fits, each with its score. -/
def ranking (strategy : Strategy) (pod : Pod) (nodes : List NodeSnapshot) :
    List (NodeName × Nat) :=
  (nodes.filter (·.fits pod)).map fun node => (node.name, strategy.score pod node)

/-- Whether a candidate comes before the best one so far. -/
def isBetter (candidate best : NodeName × Nat) : Bool :=
  best.2 < candidate.2 || (candidate.2 = best.2 && candidate.1 < best.1)

/-- The best of a best one so far and the candidates. -/
def bestOf (best : NodeName × Nat) : List (NodeName × Nat) → NodeName × Nat
  | [] => best
  | candidate :: rest => bestOf (if isBetter candidate best then candidate else best) rest

/-- Chooses a node for a pod. -/
def schedule (strategy : Strategy) (pod : Pod) (nodes : List NodeSnapshot) : Decision :=
  match strategy.ranking pod nodes with
  | [] => .doesNotFit pod.id
  | first :: rest =>
    let best := bestOf first rest
    .selected best.1 best.2 (rest.length + 1)

/-- The name in configurations and exports. -/
def keyword : Strategy → String
  | .leastAllocated => "least_allocated"
  | .mostAllocated => "most_allocated"

/-- The strategy of a name. -/
def ofKeyword? (s : String) : Option Strategy :=
  if s = keyword .leastAllocated then some .leastAllocated
  else if s = keyword .mostAllocated then some .mostAllocated
  else none

/-- The name in log lines. -/
def name : Strategy → String
  | .leastAllocated => "LeastAllocated"
  | .mostAllocated => "MostAllocated"

end Strategy

end ClusterSim
