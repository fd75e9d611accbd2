import ClusterSim.Simulation

/-!
# The dump of a simulation

A simulation as a dump shows it, with its cluster in full and its sources by name.
-/

namespace ClusterSim

/-- A node as a dump shows it. -/
def Node.dump (node : Node) : Dump :=
  .record "Node"
    [("name", .applied "NodeName" (.text node.name)),
     ("capacity", node.capacity.dump),
     ("allocated", node.allocated.dump),
     ("pods", .list (node.pods.map Pod.dump))] false

/-- A queued pod as a dump shows it. -/
def QueuedPod.dump (queued : QueuedPod) : Dump :=
  .record "QueuedPod"
    [("pod", queued.pod.dump),
     ("arrival", .bare (Text.decimal queued.arrival.toNat)),
     ("requeues", .bare (Text.decimal queued.requeues.toNat))] false

/-- A queue as a dump shows it, by descending priority. -/
def PodQueue.dump (queue : PodQueue) : Dump :=
  let tiers := queue.tiers.map fun tier =>
    (Dump.applied "Reverse" (.bare (Text.signedDecimal tier.priority.toInt)),
      Dump.list (tier.waiting.map QueuedPod.dump))
  .record "PodQueue"
    [("tiers", .map tiers),
     ("next_arrival", .bare (Text.decimal queue.nextArrival.toNat)),
     ("len", .bare (Text.decimal queue.size))] false

/-- A cluster as a dump shows it. -/
def Cluster.dump (cluster : Cluster) : Dump :=
  .record "SimulationState"
    [("nodes", .map (cluster.nodes.entries.map fun entry =>
       (.applied "NodeName" (.text entry.1), entry.2.dump))),
     ("queue", cluster.queue.dump),
     ("scheduler", .record "Scheduler" [("strategy", .bare cluster.strategy.name)] false)] false

/-- A simulation as a dump shows it. -/
def Simulation.dump {σ : Type} [Submitter σ] (sim : Simulation σ) : Dump :=
  .record "KubeSim"
    [("state", sim.cluster.dump),
     ("submitters", .list (sim.sources.map fun source => .text (Submitter.name source))),
     ("start", .record "Clock" [("instant", .bare sim.start.text)] false),
     ("tick", sim.step.dump),
     ("max_ticks", .bare (Text.decimal sim.maxTicks.toNat)),
     ("status", .bare sim.status.name)] true

end ClusterSim
