import ClusterSim.Quantity
import ClusterSim.Simulation

/-!
# Configurations

What is configured of a simulation, the checks on it, and the simulation that it describes. Of
several faults the first is reported: the capacities are read before the start of the clock, and
that before the length of a tick.
-/

namespace ClusterSim

/-- A configured node. -/
structure NodeConfig where
  name : String
  /-- A written quantity for each dimension. -/
  capacity : NameMap String
deriving DecidableEq

/-- A configuration. -/
structure Config where
  /-- Simulated seconds from one tick to the next. -/
  tick : UInt64
  /-- The time of the first tick; blank for the present. -/
  startClock : String
  /-- The level of the log. -/
  level : String
  strategy : Strategy
  /-- The number of ticks, or zero for no limit. -/
  maxTicks : UInt64
  nodes : List NodeConfig
deriving DecidableEq

/-- What is wrong with a configuration that could be read. -/
inductive ConfigFault where
  /-- Ticks of no length. -/
  | zeroTick
  /-- No such level of the log. -/
  | unknownLevel (level : String)
  /-- A node without a name. -/
  | blankNodeName
  /-- Two nodes of one name. -/
  | duplicateNodeName (name : String)
  /-- Ticks too long for a span of time. -/
  | tickOutOfRange (seconds : UInt64)
  /-- A fault found elsewhere, in its words. -/
  | stated (reason : String)
deriving DecidableEq

/-- The fault in words. -/
def ConfigFault.reason : ConfigFault → String
  | .zeroTick => "tick must be at least 1 second"
  | .unknownLevel level => "log level " ++ Text.quoted level ++ " not supported"
  | .blankNodeName => "node name must not be empty"
  | .duplicateNodeName name => "duplicate node name " ++ Text.quoted name
  | .tickOutOfRange seconds =>
    "tick of " ++ Text.decimal seconds.toNat ++ " seconds is out of range"
  | .stated reason => reason

/-- Why there is no configuration or no simulation of it. -/
inductive ConfigError where
  /-- The file cannot be read. -/
  | unreadable (detail : String)
  /-- The text is no configuration. -/
  | malformed (detail : String)
  /-- A value is out of range or contradicts another. -/
  | invalid (fault : ConfigFault)
  /-- A capacity of a node is no quantity. -/
  | quantity (node : String) (error : QuantityError)
  /-- The clock cannot be set. -/
  | clock (error : ClockError)
deriving DecidableEq

/-- The message of the error. -/
def ConfigError.message : ConfigError → String
  | .unreadable detail => "failed to read config file: " ++ detail
  | .malformed detail => "failed to parse config YAML: " ++ detail
  | .invalid fault => "invalid configuration: " ++ fault.reason
  | .quantity node error => "node " ++ node ++ ": " ++ error.message
  | .clock error => "start clock: " ++ error.message

namespace Config

/-- The configuration where nothing is configured. -/
def default : Config :=
  { tick := 10
    startClock := ""
    level := Level.keyword .info
    strategy := .leastAllocated
    maxTicks := 0
    nodes := [] }

instance : Inhabited Config := ⟨default⟩

/-- The first node without a name, or with the name of a node before it. -/
def nodeFault? (seen : List String) : List NodeConfig → Option ConfigFault
  | [] => none
  | node :: rest =>
    if Text.allBlank node.name then some .blankNodeName
    else if seen.contains node.name then some (.duplicateNodeName node.name)
    else nodeFault? (node.name :: seen) rest

/-- The first fault of a configuration. -/
def fault? (config : Config) : Option ConfigFault :=
  if config.tick = 0 then some .zeroTick
  else if (Level.ofKeyword? config.level).isNone then some (.unknownLevel config.level)
  else nodeFault? [] config.nodes

/-- The configuration, if it has no fault. -/
def validate (config : Config) : Except ConfigError Config :=
  match config.fault? with
  | none => .ok config
  | some fault => .error (.invalid fault)

/-- The span of time from one tick to the next. -/
def tickSpan (config : Config) : Except ConfigError Delta :=
  if config.tick = 0 then .error tooLong
  else
    match Delta.ofSeconds? config.tick.toNat with
    | some delta => .ok delta
    | none => .error tooLong
where
  /-- The error of a tick that is no span of time. -/
  tooLong : ConfigError := .invalid (.tickOutOfRange config.tick)

/-- Where the clock starts. -/
def clockStart (config : Config) : Except ConfigError ClockStart :=
  (ClockStart.parse config.startClock).mapError .clock

end Config

/-- The node that is configured, without pods. -/
def NodeConfig.build (node : NodeConfig) : Except ConfigError Node :=
  match Resources.parse node.capacity with
  | .ok capacity => .ok (.new node.name capacity)
  | .error error => .error (.quantity node.name error)

namespace Config

/-- The nodes that are configured. -/
def buildNodes (config : Config) : Except ConfigError (List Node) :=
  config.nodes.mapM NodeConfig.build

/-- What is reported about the nodes. -/
def nodeReport (nodes : List Node) : List Event :=
  nodes.flatMap fun node =>
    .plain .debug Simulation.target "Node created"
      [("node", .shown node.name), ("capacity", .shown node.capacity.text)] ::
    if node.capacity.isEmpty then
      [.plain .warn Simulation.target "Node has no capacity, no pod will fit"
        [("node", .shown node.name)]]
    else []

/-- The simulation that is configured, given the present instant. -/
def simulation {σ : Type} (config : Config) (now : Instant) :
    List Event × Except ConfigError (Simulation σ) :=
  match config.buildNodes with
  | .error error => ([], .error error)
  | .ok nodes =>
    (nodeReport nodes, do
      let start ← config.clockStart
      let step ← config.tickSpan
      let cluster := Cluster.new nodes config.strategy
      return { Simulation.new cluster (start.resolve now) step with maxTicks := config.maxTicks })

end Config

end ClusterSim
