import ClusterSim.Config
import ClusterSim.Simulation

/-!
# Failures of the command

Why the command fails, and the dump in which it shows the error before it ends.
-/

namespace ClusterSim

/-- The error as a failed command shows it. -/
def QuantityError.dump (e : QuantityError) : Dump :=
  match e.fault with
  | .empty => .record "Empty" [("dimension", .text e.dimension)] false
  | .invalid =>
    .record "Invalid" [("dimension", .text e.dimension), ("raw", .text e.raw)] false
  | .overflow =>
    .record "Overflow" [("dimension", .text e.dimension), ("raw", .text e.raw)] false

/-- An error that has another one as its source. -/
def Dump.caused (name : String) (source : Dump) : Dump := .record name [("source", source)] false

/-- The error as a failed command shows it. -/
def ConfigError.dump : ConfigError → Dump
  | .unreadable detail => .caused "Io" (.text detail)
  | .malformed detail => .caused "Yaml" (.text detail)
  | .invalid fault => .record "Invalid" [("reason", .text fault.reason)] false
  | .quantity node error =>
    .record "Quantity" [("node", .text node), ("source", error.dump)] false
  | .clock error => .caused "Clock" error.dump

/-- The name of a node as a dump shows it. -/
def Dump.nodeName (name : NodeName) : Dump := .applied "NodeName" (.text name)

/-- The error as a failed command shows it. -/
def NodeError.dump : NodeError → Dump
  | .insufficientCapacity node pod demand available =>
    .record "InsufficientCapacity"
      [("node", .nodeName node), ("pod", .text pod), ("demand", demand.dump),
       ("available", available.dump)] false
  | .allocationOverflow node => .record "AllocationOverflow" [("node", .nodeName node)] false

/-- The error as a failed command shows it. -/
def TickError.dump : TickError → Dump
  | .submitter error =>
    .caused "Submitter"
      (.record "Failed" [("name", .text error.name), ("message", .text error.detail)] false)
  | .bind error => .caused "Bind" error.dump
  | .unknownNode node => .record "UnknownNode" [("node", .nodeName node)] false

/-- The error as a failed command shows it. -/
def RunError.dump : RunError → Dump
  | .tick error => .caused "Tick" error.dump
  | .timeSource error => .caused "Ticker" (.caused "Clock" error.dump)
  | .timeSourceClosed => .bare "TimeSourceClosed"
  | .alreadyStopped => .bare "AlreadyStopped"

/-- Why the command fails. -/
inductive CommandError where
  /-- There is no valid configuration. -/
  | configuration (error : ConfigError)
  /-- The configured cluster cannot be built. -/
  | cluster (error : ConfigError)
  /-- The simulation fails. -/
  | run (error : RunError)
  /-- The configured workload does not exist. -/
  | workload (reason : String)
deriving DecidableEq

namespace CommandError

/-- The message of the error. -/
def message : CommandError → String
  | .configuration error => "config error: " ++ error.message
  | .cluster error => error.message
  | .run error => "runner error: " ++ error.message
  | .workload reason => "submitter error: " ++ reason

/-- The error as the failed command shows it. -/
def dump : CommandError → Dump
  | .configuration error => .caused "Config" error.dump
  | .cluster error => error.dump
  | .run error => .caused "Runner" error.dump
  | .workload reason => .record "Submitter" [("message", .text reason)] false

end CommandError

end ClusterSim
