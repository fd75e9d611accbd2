import ClusterSim.Tick

/-!
# Metrics

A picture of the whole simulation after a tick: all nodes, bound pods and pending pods.
-/

namespace ClusterSim

/-- A pending pod in the metrics. -/
structure QueueEntry where
  pod : PodId
  name : String
  priority : Int32
  arrival : UInt64
  requeues : UInt32
deriving DecidableEq

/-- The entry of a queued pod. -/
def QueuedPod.toEntry (queued : QueuedPod) : QueueEntry :=
  { pod := queued.pod.id
    name := queued.pod.name
    priority := queued.pod.priority
    arrival := queued.arrival
    requeues := queued.requeues }

/-- The state after a tick. -/
structure ClusterMetrics where
  tick : UInt64
  clock : Instant
  /-- All nodes in order of name. -/
  nodes : List NodeSnapshot
  /-- All bound pods in order of node. -/
  pods : List Pod
  /-- The pending pods in the order in which they leave the queue. -/
  queue : List QueueEntry
deriving DecidableEq

/-- The metrics of a cluster after the tick of a summary. -/
def Cluster.metrics (cluster : Cluster) (summary : TickSummary) : ClusterMetrics :=
  { tick := summary.tick
    clock := summary.clock
    nodes := cluster.snapshots summary.clock
    pods := cluster.boundPods
    queue := cluster.queue.toList.map QueuedPod.toEntry }

end ClusterSim
