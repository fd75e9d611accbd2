import ClusterSim.Command.Failure
import ClusterSim.Config.Document
import ClusterSim.Log.Filter
import ClusterSim.TickLog
import ClusterSim.Workload.Document

/-!
# A session of the command

The command reads one file for both the simulation and its random workload, builds the simulation,
runs it and reports the result. A filter from the environment replaces the configured level of the
log, unless it is malformed.
-/

namespace ClusterSim

/-- What the command is configured to do. -/
structure Session where
  config : Config
  workload : RandomConfig
deriving Inhabited

namespace Session

/-- The part of the program that reports on the session. -/
def target : String := "kubesim_engine"

/-- Reads the configuration of a session. -/
def parse (text : String) : Except CommandError Session := do
  let config ← (Config.parse text).mapError .configuration
  let workload ← (RandomConfig.parse text).mapError fun fault => .workload fault.message
  return { config, workload }

/-- The filter of the log. -/
def filter (session : Session) (fromEnvironment : Option String) : Filter :=
  (fromEnvironment.bind Filter.parse?).getD
    (.ofLevel ((Level.ofKeyword? session.config.level).getD .info))

/-- What is reported about the configuration. -/
def startReport (config : Config) : Event :=
  .plain .info target "kubesim-engine starting"
    [("tick_seconds", .ofNat config.tick.toNat),
     ("start_clock", .text config.startClock),
     ("strategy", .shown config.strategy.name),
     ("max_ticks", .ofNat config.maxTicks.toNat)]

/-- What is reported about the cluster. -/
def clusterReport (cluster : Cluster) : List Event :=
  let size := cluster.nodes.size
  let warning :=
    if size = 0 then
      [Event.plain .warn target "No nodes configured, every pod will stay pending" []]
    else []
  warning ++ [.plain .info target "Cluster built" [("nodes", .ofNat size)]]

/-- The simulation of a session, given the present instant and the seed where none is configured,
and what is reported while it is built. -/
def build (session : Session) (now : Instant) (entropy : UInt64) :
    List Event × Except CommandError (Simulation (RandomSource WordStream)) :=
  let start := startReport session.config
  match session.config.simulation now with
  | (nodes, .error error) => (start :: nodes, .error (.cluster error))
  | (nodes, .ok simulation) =>
    let (workload, source) := RandomSource.ofConfig session.workload entropy
    (start :: nodes ++ clusterReport simulation.cluster ++ workload,
      match source with
      | .ok source => .ok (simulation.addSource source)
      | .error error => .error (.workload error.message))

/-- What is reported about the result. -/
def endReport (result : SimulationResult) : List Event :=
  result.report ++
    [.plain .info target "kubesim-engine shutdown complete"
      [("end_reason", .shown result.endReason.dump.render),
       ("total_ticks", .ofNat result.totalTicks.toNat)]]

end Session

end ClusterSim
