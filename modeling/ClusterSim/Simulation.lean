import ClusterSim.Observer
import ClusterSim.TimeSource

/-!
# Simulations

A simulation executes ticks at the instants of its time source until a stop is requested, its
number of ticks is reached, a tick fails, or the time source ends. A stop request is looked at
before each tick. At the end the time source is closed; a clock that could not be advanced past the
last instant makes the run fail even if no further tick was wanted. A simulation runs once.
-/

namespace ClusterSim

/-- Where a simulation stands. -/
inductive LoopStatus where
  | idle
  | running
  | stopped
deriving DecidableEq, Inhabited

/-- The name of the status. -/
def LoopStatus.name : LoopStatus → String
  | .idle => "Idle"
  | .running => "Running"
  | .stopped => "Stopped"

/-- Why a run fails. -/
inductive RunError where
  /-- A tick failed. -/
  | tick (error : TickError)
  /-- The time source failed. -/
  | timeSource (error : ClockError)
  /-- The time source ended without an error. -/
  | timeSourceClosed
  /-- The simulation has run before. -/
  | alreadyStopped
deriving DecidableEq

/-- The message of the error. -/
def RunError.message : RunError → String
  | .tick error => "tick error: " ++ error.message
  | .timeSource error => "time source error: " ++ TimeSource.failureMessage error
  | .timeSourceClosed => "time source closed unexpectedly"
  | .alreadyStopped => "simulation already stopped"

/-- The result of a run. -/
structure SimulationResult where
  endReason : EndReason
  /-- The summary of the last tick. -/
  final : Option TickSummary
  totalTicks : UInt64
  /-- How many pods were bound. -/
  bound : UInt64
  /-- How often a pod was placed back. -/
  requeued : UInt64
deriving DecidableEq

/-- A simulation of a cluster. -/
structure Simulation (σ : Type) where
  cluster : Cluster
  sources : List σ
  supply : PodId.Supply
  start : Instant
  step : Delta
  /-- The number of ticks after which a run ends, or zero for no limit. -/
  maxTicks : UInt64
  status : LoopStatus

namespace Simulation

/-- A simulation without sources and without a limit. -/
def new {σ : Type} (cluster : Cluster) (start : Instant) (step : Delta) : Simulation σ :=
  { cluster, sources := [], supply := .fresh, start, step, maxTicks := 0, status := .idle }

/-- The simulation with one more source, which is asked after the others. -/
def addSource {σ : Type} (sim : Simulation σ) (source : σ) : Simulation σ :=
  { sim with sources := sim.sources ++ [source] }

/-- The part of the program that reports on runs. -/
def target : String := "kubesim_core::runner"

/-- The span of a run. -/
def span : Span := { name := "simulation", target := "kubesim_engine", level := .info }

/-- An event inside the span of the run. -/
def inside (level : Level) (message : String) (fields : List (String × FieldValue)) : Event :=
  (Event.plain level target message fields).within span

end Simulation

/-- A run in progress. -/
structure Run (σ ω : Type) where
  simulation : Simulation σ
  timeSource : TimeSource
  stop : StopRequest
  observer : ω
  ticks : UInt64
  bound : UInt64
  requeued : UInt64
  final : Option TickSummary

/-- What a run has come to. -/
inductive Progress (σ ω : Type) where
  /-- It goes on. -/
  | running (run : Run σ ω)
  /-- It has ended. -/
  | finished (run : Run σ ω) (result : Except RunError SimulationResult)

namespace Run

variable {σ ω : Type}

/-- A run at its beginning. -/
def start (sim : Simulation σ) (stop : StopRequest) (observer : ω) : Run σ ω :=
  { simulation := { sim with status := .running }
    timeSource := .start sim.start sim.step
    stop, observer
    ticks := 0, bound := 0, requeued := 0, final := none }

/-- What a run reports at its beginning. -/
def startReport (sim : Simulation σ) : List Event :=
  [Simulation.inside .info "Simulation starting"
    [("start", .shown sim.start.display),
     ("tick_seconds", .ofInt sim.step.wholeSeconds),
     ("nodes", .ofNat sim.cluster.nodes.size),
     ("submitters", .ofNat sim.sources.length),
     ("max_ticks", .ofNat sim.maxTicks.toNat),
     ("strategy", .shown sim.cluster.strategy.name)]]

/-- The result of a run that ends for a reason. -/
def result (run : Run σ ω) (endReason : EndReason) : SimulationResult :=
  { endReason
    final := run.final
    totalTicks := run.ticks
    bound := run.bound
    requeued := run.requeued }

/-- Why the ticks came to an end. -/
inductive Ending where
  /-- As intended. -/
  | reached (reason : EndReason)
  /-- A tick failed. -/
  | failed (error : TickError)
  /-- The time source ended. -/
  | exhausted

/-- Ends a run: closes the time source, whose failure counts unless a tick has failed. -/
def finish (run : Run σ ω) (ending : Ending) : List Event × Progress σ ω :=
  let closed := run.timeSource.close run.stop
  let closing := run.timeSource.closingReport Simulation.span closed
  let ended :=
    { run with
      timeSource := closed
      simulation := { run.simulation with status := .stopped } }
  match ending, closed.failure? with
  | .reached reason, none => (closing, .finished ended (.ok (run.result reason)))
  | .reached _, some error => (closing, .finished ended (.error (.timeSource error)))
  | .failed error, none => (closing, .finished ended (.error (.tick error)))
  | .failed error, some clockError =>
    (closing ++ [Simulation.inside .warn "Time source failed during shutdown"
        [("error", .shown (TimeSource.failureMessage clockError))]],
      .finished ended (.error (.tick error)))
  | .exhausted, some error => (closing, .finished ended (.error (.timeSource error)))
  | .exhausted, none => (closing, .finished ended (.error .timeSourceClosed))

/-- Adds events in front of those of what follows. -/
def after (events : List Event) (rest : List Event × Progress σ ω) : List Event × Progress σ ω :=
  (events ++ rest.1, rest.2)

/-- Counts the outcome of a tick. -/
def count (run : Run σ ω) (summary : TickSummary) : Run σ ω :=
  { run with
    ticks := summary.tick
    bound := match summary.placement with
      | .bound _ _ => Counter.next64 run.bound
      | _ => run.bound
    requeued := match summary.placement with
      | .requeued _ _ => Counter.next64 run.requeued
      | _ => run.requeued
    final := some summary }

/-- Whether the limit of ticks is reached. -/
def limitReached (run : Run σ ω) : Bool :=
  0 < run.simulation.maxTicks && run.simulation.maxTicks ≤ run.ticks

/-- Executes the tick at an instant. -/
def executeTick [Submitter σ] [Observer ω] (run : Run σ ω) (clock : Instant) :
    List Event × Progress σ ω :=
  let sim := run.simulation
  let number := Counter.next64 run.ticks
  let outcome := sim.cluster.tick number clock sim.supply sim.sources
  let reported := (outcome.report number clock).map (·.within Simulation.span)
  let ticked :=
    { run with
      simulation := { sim with
        cluster := outcome.cluster
        sources := outcome.intake.sources
        supply := outcome.intake.supply }
      stop := run.stop.requestAll outcome.intake.stops }
  match outcome.result with
  | .error error => after reported (ticked.finish (.failed error))
  | .ok summary =>
    let counted := ticked.count summary
    let observation := Observer.observe run.observer summary outcome.cluster
    let observed :=
      { counted with
        observer := observation.observer
        stop := counted.stop.requestAll observation.stops }
    let reported := reported ++ observation.events.map (·.within Simulation.span)
    if observed.limitReached then
      let limit := Simulation.inside .info "Tick limit reached"
        [("tick", .ofNat observed.ticks.toNat), ("max_ticks", .ofNat sim.maxTicks.toNat)]
      after (reported ++ [limit]) (observed.finish (.reached .maxTicksReached))
    else (reported, .running observed)

/-- One round of a run: a requested stop ends it, else the next instant is awaited and its tick
executed. -/
def round [Submitter σ] [Observer ω] (run : Run σ ω) : List Event × Progress σ ω :=
  match run.stop.reason with
  | some reason =>
    after [Simulation.inside .info "Stop requested" [("reason", .shown reason)]]
      (run.finish (.reached (.stopped reason)))
  | none =>
    match run.timeSource.next run.stop with
    | (none, timeSource) => { run with timeSource }.finish .exhausted
    | (some clock, timeSource) => { run with timeSource }.executeTick clock

/-- At most so many rounds of a run. -/
def rounds [Submitter σ] [Observer ω] : Nat → Run σ ω → List Event × Progress σ ω
  | 0, run => ([], .running run)
  | fuel + 1, run =>
    match run.round with
    | (events, .running run) => after events (rounds fuel run)
    | finished => finished

end Run

namespace Simulation

variable {σ ω : Type}

/-- The end of an attempt to run a simulation again. -/
def refuse (sim : Simulation σ) (stop : StopRequest) (observer : ω) : List Event × Progress σ ω :=
  ([Event.plain .warn target "Run requested on a stopped simulation" []],
    .finished { Run.start sim stop observer with simulation := sim } (.error .alreadyStopped))

/-- Runs a simulation for at most so many rounds. -/
def run [Submitter σ] [Observer ω] (rounds : Nat) (sim : Simulation σ) (stop : StopRequest)
    (observer : ω) : List Event × Progress σ ω :=
  if sim.status = .stopped then sim.refuse stop observer
  else Run.after (Run.startReport sim) ((Run.start sim stop observer).rounds rounds)

end Simulation

/-- What is reported about a result. -/
def SimulationResult.report (result : SimulationResult) : List Event :=
  let final : FieldValue :=
    match result.final with
    | some summary => .ofNat summary.tick.toNat
    | none => .absent
  let ended := Event.plain .info Simulation.target "Simulation ended"
    [("reason", .shown result.endReason.dump.render),
     ("total_ticks", .ofNat result.totalTicks.toNat),
     ("bound", .ofNat result.bound.toNat),
     ("requeued", .ofNat result.requeued.toNat),
     ("final_tick", final)]
  let last :=
    match result.final with
    | some summary =>
      Event.plain .info Simulation.target "Final tick summary"
        [("tick", .ofNat summary.tick.toNat),
         ("clock", .shown summary.clock.display),
         ("pending", .ofNat summary.pending)]
    | none => Event.plain .warn Simulation.target "Simulation ended with no ticks executed" []
  [ended, last]

end ClusterSim
