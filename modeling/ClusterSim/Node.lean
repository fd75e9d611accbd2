import ClusterSim.Pod

/-!
# Nodes

A node has a fixed capacity and holds the pods bound to it, with the sum of their demands. A pod
is bound only if what is left of the capacity covers its demand.
-/

namespace ClusterSim

/-- A machine with its pods. -/
structure Node where
  name : NodeName
  capacity : Resources
  /-- The sum of the demands of the pods. -/
  allocated : Resources
  /-- The pods in the order in which they were bound. -/
  pods : List Pod
deriving DecidableEq

/-- Why a node refuses a pod. -/
inductive NodeError where
  /-- The demand exceeds what is available. -/
  | insufficientCapacity (node : NodeName) (pod : String) (demand available : Resources)
  /-- An allocated amount would reach `2 ^ 64`. -/
  | allocationOverflow (node : NodeName)
deriving DecidableEq

/-- The message of the error. -/
def NodeError.message : NodeError → String
  | .insufficientCapacity node pod demand available =>
    "pod " ++ pod ++ " does not fit on node " ++ node ++ ": demand " ++ demand.text ++
      ", available " ++ available.text
  | .allocationOverflow node => "allocation overflow on node " ++ node

/-- A view of a node at an instant. -/
structure NodeSnapshot where
  name : NodeName
  capacity : Resources
  allocated : Resources
  available : Resources
  /-- The identities of the pods in the order in which they were bound. -/
  pods : List PodId
  takenAt : Instant
deriving DecidableEq

/-- Whether the demand of a pod is available on the node. -/
def NodeSnapshot.fits (snapshot : NodeSnapshot) (pod : Pod) : Bool :=
  snapshot.available.covers pod.demand

namespace Node

/-- A node without pods. -/
def new (name : NodeName) (capacity : Resources) : Node :=
  { name, capacity, allocated := .empty, pods := [] }

/-- What is left of the capacity. -/
def available (node : Node) : Resources := node.capacity.sub node.allocated

/-- Whether the demand of a pod is available. -/
def fits (node : Node) (pod : Pod) : Bool := node.available.covers pod.demand

/-- Binds a pod at an instant. -/
def bind (node : Node) (now : Instant) (pod : Pod) : Except NodeError Node :=
  if node.fits pod then
    match node.allocated.add? pod.demand with
    | some allocated =>
      .ok { node with
        allocated
        pods := node.pods ++ [{ pod with status := .bound node.name now }] }
    | none => .error (.allocationOverflow node.name)
  else .error (.insufficientCapacity node.name pod.name pod.demand node.available)

/-- The view of the node at an instant. -/
def snapshot (node : Node) (now : Instant) : NodeSnapshot :=
  { name := node.name
    capacity := node.capacity
    allocated := node.allocated
    available := node.available
    pods := node.pods.map (·.id)
    takenAt := now }

end Node

end ClusterSim
