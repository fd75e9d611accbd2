import ClusterSim.Queue
import ClusterSim.Scheduler

/-!
# The cluster

The nodes by name, the pending pods, and the strategy by which nodes are chosen.
-/

namespace ClusterSim

/-- The state that ticks act on. -/
structure Cluster where
  nodes : NameMap Node
  queue : PodQueue
  strategy : Strategy
deriving DecidableEq

namespace Cluster

/-- A cluster of nodes under their own names, without pods; of several nodes of one name the last
stays. -/
def new (nodes : List Node) (strategy : Strategy) : Cluster :=
  { nodes := .ofList (nodes.map fun node => (node.name, node)), queue := .empty, strategy }

/-- The views of all nodes at an instant, in order of name. -/
def snapshots (cluster : Cluster) (now : Instant) : List NodeSnapshot :=
  cluster.nodes.values.map (·.snapshot now)

/-- The bound pods of all nodes, in order of node. -/
def boundPods (cluster : Cluster) : List Pod :=
  (cluster.nodes.values.flatMap (·.pods)).filter (·.isBound)

end Cluster

end ClusterSim
