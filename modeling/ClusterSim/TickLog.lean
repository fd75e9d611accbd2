import ClusterSim.Export
import ClusterSim.Observer
import ClusterSim.Tick.Report

/-!
# The log of an observed run

An observer that reports what became of the pod in every tick, and then the metrics of the whole
cluster, and counts the ticks.
-/

namespace ClusterSim

/-- The observer, with the number of ticks that it has reported. -/
structure TickLog where
  ticks : UInt64
deriving DecidableEq

namespace TickLog

/-- The observer before the first tick. -/
def empty : TickLog := ⟨0⟩

/-- The part of the program that reports on observed ticks. -/
def target : String := "kubesim_engine::metrics_log"

/-- What is reported about the pod of a tick. -/
def placed (summary : TickSummary) : Event :=
  let tick : List (String × FieldValue) :=
    [("tick", .ofNat summary.tick.toNat), ("clock", .shown summary.clock.display)]
  let counts : List (String × FieldValue) :=
    [("submitted", .ofNat summary.submitted), ("pending", .ofNat summary.pending)]
  match summary.placement with
  | .bound pod node =>
    .plain .info target "Pod bound"
      (tick ++ counts ++ [("pod", .shown pod.text), ("node", .shown node)])
  | .requeued pod requeues =>
    .plain .info target "Pod requeued"
      (tick ++ counts ++ [("pod", .shown pod.text), ("requeues", .ofNat requeues.toNat)])
  | .idle => .plain .debug target "Queue empty" tick

/-- What is reported about the cluster after a tick. -/
def measured (summary : TickSummary) (cluster : Cluster) : Event :=
  { Event.plain .debug target "Cluster metrics"
      [("tick", .ofNat summary.tick.toNat),
       ("metrics", .shown (cluster.metrics summary).toJson.compact)] with
    costly := true }

instance : Observer TickLog where
  observe log summary cluster :=
    ⟨⟨Counter.next64 log.ticks⟩, [], [placed summary, measured summary cluster]⟩

end TickLog

end ClusterSim
