import ClusterSim.PodId
import ClusterSim.Resources
import ClusterSim.Time.Instant

/-!
# Pods

A pod is a named demand for resources with a priority. It waits until it is bound to a node.
-/

namespace ClusterSim

/-- The name of a node. -/
abbrev NodeName := String

/-- Where a pod stands. -/
inductive PodStatus where
  /-- Waiting for a node. -/
  | pending
  /-- Bound to a node since the given instant. -/
  | bound (node : NodeName) (since : Instant)
deriving DecidableEq

/-- A demand for resources. -/
structure Pod where
  id : PodId
  name : String
  demand : Resources
  /-- Pods of higher priority are placed first. -/
  priority : Int32
  /-- When the pod was submitted. -/
  createdAt : Option Instant
  status : PodStatus
deriving DecidableEq

namespace Resources

/-- The amounts as a dump shows them. -/
def dump (r : Resources) : Dump :=
  .applied "ResourceList"
    (.map (r.toList.map fun entry => (.text entry.1, .bare (Text.decimal entry.2.toNat))))

end Resources

namespace PodStatus

/-- Whether the pod is bound. -/
def isBound : PodStatus → Bool
  | .pending => false
  | .bound _ _ => true

/-- The status as a dump shows it. -/
def dump : PodStatus → Dump
  | .pending => .bare "Pending"
  | .bound node since =>
    .record "Bound" [("node", .applied "NodeName" (.text node)), ("at", .bare since.text)] false

end PodStatus

namespace Pod

/-- A pending pod that has not been submitted. -/
def new (id : PodId) (name : String) (demand : Resources) (priority : Int32) : Pod :=
  { id, name, demand, priority, createdAt := none, status := .pending }

/-- Whether the pod is bound to a node. -/
def isBound (pod : Pod) : Bool := pod.status.isBound

/-- The pod as a dump shows it. -/
def dump (pod : Pod) : Dump :=
  .record "Pod"
    [("id", .applied "PodId" (.bare pod.id.text)),
     ("name", .text pod.name),
     ("demand", pod.demand.dump),
     ("priority", .bare (Text.signedDecimal pod.priority.toInt)),
     ("created_at",
      match pod.createdAt with
      | some t => .applied "Some" (.bare t.text)
      | none => .bare "None"),
     ("status", pod.status.dump)] false

end Pod

end ClusterSim
