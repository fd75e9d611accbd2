import ClusterSim.Cluster
import ClusterSim.Submitter

/-!
# One tick

A tick takes views of all nodes, asks the sources for pods one after the other and puts them into
the queue, then takes one pod from the queue. If a node is chosen for the pod it is bound there;
if it fits nowhere it is placed back. A source that fails ends the tick at once; what the sources
before it submitted stays in the queue.
-/

namespace ClusterSim

/-- Why a tick fails. -/
inductive TickError where
  /-- A source of pods failed. -/
  | submitter (error : SubmitError)
  /-- The chosen node refused the pod. -/
  | bind (error : NodeError)
  /-- There is no node under the chosen name. -/
  | unknownNode (node : NodeName)
deriving DecidableEq

/-- The message of the error. -/
def TickError.message : TickError → String
  | .submitter error => "submit error: " ++ error.message
  | .bind error => "bind error: " ++ error.message
  | .unknownNode node => "no node named " ++ node

/-- What became of the pod taken from the queue. -/
inductive Placement where
  /-- No pod was pending. -/
  | idle
  /-- The pod was bound. -/
  | bound (pod : PodId) (node : NodeName)
  /-- The pod fitted nowhere and has now been placed back so often. -/
  | requeued (pod : PodId) (requeues : UInt32)
deriving DecidableEq

/-- What a tick did. -/
structure TickSummary where
  /-- The number of the tick, from 1. -/
  tick : UInt64
  clock : Instant
  /-- How many pods were submitted. -/
  submitted : Nat
  placement : Placement
  /-- How many pods are pending afterwards. -/
  pending : Nat
deriving DecidableEq

/-- The pod as it enters the queue in a tick. -/
def Pod.stamp (now : Instant) (pod : Pod) : Pod := { pod with createdAt := some now }

/-! ### Submission -/

/-- What one source contributed to a tick. -/
structure Batch where
  source : String
  events : List Event
  pods : List Pod

/-- The outcome of asking the sources of pods. -/
structure Intake (σ : Type) where
  sources : List σ
  supply : PodId.Supply
  queue : PodQueue
  batches : List Batch
  stops : List String
  /-- The error that ended the submission, if one did. -/
  failure : Option SubmitError

/-- Asks the sources in turn and puts their pods into the queue, up to the first that fails. -/
def Intake.collect {σ : Type} [Submitter σ] (now : Instant) (snapshots : List NodeSnapshot) :
    PodId.Supply → PodQueue → List σ → Intake σ
  | supply, queue, [] =>
    { sources := [], supply, queue, batches := [], stops := [], failure := none }
  | supply, queue, source :: rest =>
    let name := Submitter.name source
    let reply := Submitter.submit source supply now snapshots
    match reply.answer with
    | .error error =>
      { sources := reply.source :: rest
        supply := reply.supply
        queue
        batches := [⟨name, reply.events, []⟩]
        stops := reply.stops
        failure := some error }
    | .ok pods =>
      let pods := pods.map (Pod.stamp now)
      let later := collect now snapshots reply.supply (queue.pushAll pods) rest
      { later with
        sources := reply.source :: later.sources
        batches := ⟨name, reply.events, pods⟩ :: later.batches
        stops := reply.stops ++ later.stops }

/-- The number of pods that were submitted. -/
def Intake.submitted {σ : Type} (intake : Intake σ) : Nat :=
  (intake.batches.flatMap fun batch => batch.pods).length

/-! ### Placement -/

/-- An attempt to place a pod: the nodes where it fits with their scores, and the choice. -/
structure Attempt where
  entry : QueuedPod
  ranking : List (NodeName × Nat)
  decision : Decision

/-- Binds a pod to the node under a name. -/
def Cluster.bind (cluster : Cluster) (now : Instant) (pod : Pod) (name : NodeName) :
    Except TickError Cluster :=
  match cluster.nodes.get? name with
  | none => .error (.unknownNode name)
  | some node =>
    match node.bind now pod with
    | .ok node => .ok { cluster with nodes := cluster.nodes.insert name node }
    | .error error => .error (.bind error)

/-- Takes one pod from the queue and places it. -/
def Cluster.place (cluster : Cluster) (now : Instant) (snapshots : List NodeSnapshot) :
    Cluster × Option Attempt × Except TickError Placement :=
  match cluster.queue.pop with
  | .error .empty => (cluster, none, .ok .idle)
  | .ok (entry, queue) =>
    let popped := { cluster with queue }
    let decision := cluster.strategy.schedule entry.pod snapshots
    let attempt : Attempt :=
      { entry, ranking := cluster.strategy.ranking entry.pod snapshots, decision }
    match decision with
    | .doesNotFit pod =>
      ({ cluster with queue := queue.placeBack entry }, some attempt,
        .ok (.requeued pod (Counter.next32 entry.requeues)))
    | .selected node _ _ =>
      match popped.bind now entry.pod node with
      | .ok bound => (bound, some attempt, .ok (.bound entry.pod.id node))
      | .error error => (popped, some attempt, .error error)

/-! ### The whole tick -/

/-- What comes of a tick. -/
structure TickOutcome (σ : Type) where
  cluster : Cluster
  intake : Intake σ
  attempt : Option Attempt
  result : Except TickError TickSummary

/-- Executes a tick. -/
def Cluster.tick {σ : Type} [Submitter σ] (cluster : Cluster) (number : UInt64) (now : Instant)
    (supply : PodId.Supply) (sources : List σ) : TickOutcome σ :=
  let snapshots := cluster.snapshots now
  let intake := Intake.collect now snapshots supply cluster.queue sources
  let filled := { cluster with queue := intake.queue }
  match intake.failure with
  | some error =>
    { cluster := filled, intake, attempt := none, result := .error (.submitter error) }
  | none =>
    let (placed, attempt, placement) := filled.place now snapshots
    { cluster := placed
      intake
      attempt
      result := placement.map fun placement =>
        { tick := number
          clock := now
          submitted := intake.submitted
          placement
          pending := placed.queue.size } }

end ClusterSim
