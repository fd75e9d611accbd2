import ClusterSim.Quantity
import ClusterSim.Submitter
import ClusterSim.Tick.Report
import ClusterSim.Workload.Draw

/-!
# Random workloads

A source that submits the same number of pods in every tick. The demands for cpu and memory are
drawn uniformly from configured ranges, the priority from a configured list. With a seed the
workload can be repeated.
-/

namespace ClusterSim

/-- A range of quantities as written. -/
structure QuantityRange where
  min : String
  max : String
deriving DecidableEq

/-- What a random workload looks like. -/
structure RandomConfig where
  /-- The seed; without one the workload cannot be repeated. -/
  seed : Option UInt64
  podsPerTick : UInt32
  namePrefix : String
  cpu : QuantityRange
  memory : QuantityRange
  priorities : List Int32
deriving DecidableEq

namespace RandomConfig

/-- The workload where nothing is configured. -/
def default : RandomConfig :=
  { seed := none
    podsPerTick := 1
    namePrefix := "pod"
    cpu := ⟨"100m", "1"⟩
    memory := ⟨"64Mi", "1Gi"⟩
    priorities := [0] }

instance : Inhabited RandomConfig := ⟨default⟩

end RandomConfig

/-- Why there is no such random workload. -/
inductive RandomConfigError where
  /-- No priority to draw from. -/
  | noPriority
  /-- An end of a range cannot be read. -/
  | quantity (error : QuantityError)
  /-- The least amount of a range exceeds the greatest. -/
  | emptyRange (dimension : String) (range : QuantityRange)
deriving DecidableEq

/-- The message of the error. -/
def RandomConfigError.message : RandomConfigError → String
  | .noPriority => "at least one priority is required"
  | .quantity error => error.message
  | .emptyRange dimension range =>
    dimension ++ " range is empty: " ++ range.min ++ " > " ++ range.max

/-- A range of amounts that is not empty. -/
structure AmountRange where
  least : Amount
  greatest : Amount
  least_le : least ≤ greatest
deriving DecidableEq

/-- Reads a range of quantities of a dimension. -/
def QuantityRange.parse (range : QuantityRange) (dimension : String) :
    Except RandomConfigError AmountRange := do
  let least ← (Quantity.parse dimension range.min).mapError .quantity
  let greatest ← (Quantity.parse dimension range.max).mapError .quantity
  if h : least ≤ greatest then return ⟨least, greatest, h⟩
  else throw (.emptyRange dimension range)

/-- A source of random pods, which draws from a generator. -/
structure RandomSource (γ : Type) where
  generator : γ
  podsPerTick : UInt32
  namePrefix : String
  cpu : AmountRange
  memory : AmountRange
  priorities : List Int32
  some_priority : priorities ≠ []
  /-- How many pods have been submitted. -/
  submitted : UInt64

namespace RandomSource

/-- The part of the program that reports on random workloads. -/
def target : String := "kubesim_engine::random_submitter"

/-- What is reported about a configuration with priorities. -/
def report (config : RandomConfig) : List Event :=
  let seed : FieldValue :=
    match config.seed with
    | some seed => .ofNat seed.toNat
    | none => .absent
  let priorities := Dump.list (config.priorities.map fun p => .bare (Text.signedDecimal p.toInt))
  [.plain .info target "Random submitter configured"
    [("seed", seed),
     ("pods_per_tick", .ofNat config.podsPerTick.toNat),
     ("cpu_min", .text config.cpu.min),
     ("cpu_max", .text config.cpu.max),
     ("memory_min", .text config.memory.min),
     ("memory_max", .text config.memory.max),
     ("priorities", .shown priorities.render)]]

/-- The source that a configuration describes; `entropy` is the seed where none is configured. -/
def ofConfig (config : RandomConfig) (entropy : UInt64) :
    List Event × Except RandomConfigError (RandomSource WordStream) :=
  if h : config.priorities = [] then ([], .error .noPriority)
  else
    (report config, do
      let cpuRange ← config.cpu.parse Dimension.cpu
      let memoryRange ← config.memory.parse Dimension.memory
      return {
        generator := .ofSeed (config.seed.getD entropy)
        podsPerTick := config.podsPerTick
        namePrefix := config.namePrefix
        cpu := cpuRange
        memory := memoryRange
        priorities := config.priorities
        some_priority := h
        submitted := 0 })

variable {γ : Type} [Generator γ]

/-- The next pod: its demand for cpu is drawn first, then that for memory, then its priority. -/
def nextPod (source : RandomSource γ) (supply : PodId.Supply) :
    Pod × RandomSource γ × PodId.Supply :=
  let (cpuAmount, generator) :=
    Generator.between source.cpu.least source.cpu.greatest source.generator
  let (memoryAmount, generator) :=
    Generator.between source.memory.least source.memory.greatest generator
  let (index, generator) := Generator.index source.priorities.length generator
  let (id, supply) := supply.take
  let demand :=
    (Resources.empty.insert Dimension.cpu cpuAmount).insert Dimension.memory memoryAmount
  let name := source.namePrefix ++ "-" ++ Text.decimal source.submitted.toNat
  (.new id name demand (source.priorities.getD index 0),
    { source with generator, submitted := Counter.next64 source.submitted }, supply)

/-- So many pods. -/
def nextPods : Nat → RandomSource γ → PodId.Supply →
    List Pod × RandomSource γ × PodId.Supply
  | 0, source, supply => ([], source, supply)
  | count + 1, source, supply =>
    let (pod, source, supply) := source.nextPod supply
    let (pods, source, supply) := nextPods count source supply
    (pod :: pods, source, supply)

instance : Submitter (RandomSource γ) where
  name _ := "random"
  submit source supply now nodes :=
    let (pods, next, supply) := nextPods source.podsPerTick.toNat source supply
    { source := next
      supply
      answer := .ok pods
      stops := []
      events :=
        [.plain .debug target "Random workload generated"
          [("clock", .shown now.display),
           ("nodes", .ofNat nodes.length),
           ("pods", .ofNat pods.length)]] }

end RandomSource

end ClusterSim
