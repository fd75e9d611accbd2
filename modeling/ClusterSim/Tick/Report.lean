import ClusterSim.Tick

/-!
# The log of a tick

The events of a tick in order: its start, what each source submitted, and how the pod taken from
the queue was placed.
-/

namespace ClusterSim

/-- The part of the program that reports on ticks. -/
def tickTarget : String := "kubesim_core::tick"

/-- The part of the program that reports on scores. -/
def schedulerTarget : String := "kubesim_core::scheduler"

/-- An event outside all spans. -/
def Event.plain (level : Level) (target message : String) (fields : List (String × FieldValue)) :
    Event :=
  { level, target, spans := [], message, fields }

/-- The events of one source: its own, and two for each pod. -/
def Batch.report (batch : Batch) : List Event :=
  batch.events ++ batch.pods.flatMap fun pod =>
    [.plain .trace tickTarget "Submit"
      [("submitter", .text batch.source), ("pod", .shown pod.dump.render)],
     .plain .debug tickTarget "Submit"
      [("submitter", .text batch.source), ("pod", .shown pod.name)]]

/-- The events of an attempt to place a pod. -/
def Attempt.report (number : UInt64) (attempt : Attempt) : List Event :=
  let tick : String × FieldValue := ("tick", .ofNat number.toNat)
  let pod : String × FieldValue := ("pod", .shown attempt.entry.pod.name)
  let scored := attempt.ranking.map fun (node, score) =>
    Event.plain .trace schedulerTarget "Scored node"
      [pod, ("node", .shown node), ("score", .ofNat score)]
  let decided :=
    match attempt.decision with
    | .doesNotFit _ => Event.plain .debug tickTarget "Pod does not fit in any node" [tick, pod]
    | .selected node score feasible =>
      Event.plain .debug tickTarget "Selected node"
        [tick, pod, ("node", .shown node), ("score", .ofNat score), ("feasible", .ofNat feasible)]
  .plain .debug tickTarget "Trying to schedule pod"
    [tick, pod, ("priority", .ofInt attempt.entry.pod.priority.toInt)] :: scored ++ [decided]

/-- The events of a tick. -/
def TickOutcome.report {σ : Type} (outcome : TickOutcome σ) (number : UInt64) (now : Instant) :
    List Event :=
  let tick : String × FieldValue := ("tick", .ofNat number.toNat)
  let placed :=
    match outcome.attempt, outcome.intake.failure with
    | some attempt, _ => attempt.report number
    | none, none => [.plain .trace tickTarget "Queue empty, no placement" [tick]]
    | none, some _ => []
  .plain .debug tickTarget "Tick started" [tick, ("clock", .shown now.display)] ::
    outcome.intake.batches.flatMap Batch.report ++ placed

end ClusterSim
