import ClusterSim.Json
import ClusterSim.Metrics
import ClusterSim.Stop
import ClusterSim.Time.Lenient

/-!
# Exported state

Each type of the exported state as a JSON value, and read back from one. What is written is read
back unchanged; a reader also takes other spellings of times and identities, ignores members that
it does not know, and takes a record as an array of its fields.
-/

namespace ClusterSim

namespace Instant

/-- An instant as its text. -/
def toJson (t : Instant) : Json := .text t.text

/-- Reads an instant in the lenient form. -/
def ofJson? (json : Json) : Option Instant := do
  (Instant.parseLenient (← json.text?)).toOption

end Instant

namespace PodId

/-- An identity as its text. -/
def toJson (id : PodId) : Json := .text id.text

/-- Reads an identity. -/
def ofJson? (json : Json) : Option PodId := do PodId.parse? (← json.text?)

end PodId

namespace Resources

/-- Amounts as an object. -/
def toJson (r : Resources) : Json :=
  .object (r.toList.map fun entry => (entry.1, .ofWord64 entry.2))

/-- Reads amounts. -/
def ofJson? : Json → Option Resources
  | .object members =>
    (members.mapM fun (member : String × Json) =>
      (member.2.word64?).map fun amount => (member.1, amount)).map Resources.ofList
  | _ => none

end Resources

namespace PodStatus

/-- A status as an object with its phase. -/
def toJson : PodStatus → Json
  | .pending => .object [("phase", .text "pending")]
  | .bound node since =>
    .object [("phase", .text "bound"), ("node", .text node), ("at", since.toJson)]

/-- The phase of a status: the first item of an array or a member of an object. -/
def phase? : Json → Option String
  | .array (phase :: _) => phase.text?
  | .object members => (members.lookup "phase").bind Json.text?
  | _ => none

/-- Reads a status. -/
def ofJson? (json : Json) : Option PodStatus := do
  match ← phase? json with
  | "pending" =>
    let _ ← json.fields? ["phase"]
    return .pending
  | "bound" =>
    match ← json.fields? ["phase", "node", "at"] with
    | [_, node, since] =>
      return .bound (← Json.required Json.text? node) (← Json.required Instant.ofJson? since)
    | _ => none
  | _ => none

end PodStatus

namespace Pod

/-- A pod as an object. -/
def toJson (pod : Pod) : Json :=
  .object
    [("id", pod.id.toJson),
     ("name", .text pod.name),
     ("demand", pod.demand.toJson),
     ("priority", .ofInt32 pod.priority),
     ("created_at", match pod.createdAt with
       | some t => t.toJson
       | none => .null),
     ("status", pod.status.toJson)]

/-- Reads a pod. -/
def ofJson? (json : Json) : Option Pod := do
  match ← json.fields? ["id", "name", "demand", "priority", "created_at", "status"] with
  | [id, name, demand, priority, createdAt, status] =>
    return {
      id := ← Json.required PodId.ofJson? id
      name := ← Json.required Json.text? name
      demand := ← Json.required Resources.ofJson? demand
      priority := ← Json.required Json.int32? priority
      createdAt := ← Json.optional Instant.ofJson? createdAt
      status := ← Json.required PodStatus.ofJson? status }
  | _ => none

end Pod

namespace NodeSnapshot

/-- A view of a node as an object. -/
def toJson (snapshot : NodeSnapshot) : Json :=
  .object
    [("name", .text snapshot.name),
     ("capacity", snapshot.capacity.toJson),
     ("allocated", snapshot.allocated.toJson),
     ("available", snapshot.available.toJson),
     ("pods", .array (snapshot.pods.map PodId.toJson)),
     ("taken_at", snapshot.takenAt.toJson)]

/-- Reads a view of a node. -/
def ofJson? (json : Json) : Option NodeSnapshot := do
  match ← json.fields? ["name", "capacity", "allocated", "available", "pods", "taken_at"] with
  | [name, capacity, allocated, available, pods, takenAt] =>
    return {
      name := ← Json.required Json.text? name
      capacity := ← Json.required Resources.ofJson? capacity
      allocated := ← Json.required Resources.ofJson? allocated
      available := ← Json.required Resources.ofJson? available
      pods := ← Json.required (Json.list? PodId.ofJson?) pods
      takenAt := ← Json.required Instant.ofJson? takenAt }
  | _ => none

end NodeSnapshot

namespace QueueEntry

/-- A pending pod as an object. -/
def toJson (entry : QueueEntry) : Json :=
  .object
    [("pod", entry.pod.toJson),
     ("name", .text entry.name),
     ("priority", .ofInt32 entry.priority),
     ("arrival", .ofWord64 entry.arrival),
     ("requeues", .ofWord32 entry.requeues)]

/-- Reads a pending pod. -/
def ofJson? (json : Json) : Option QueueEntry := do
  match ← json.fields? ["pod", "name", "priority", "arrival", "requeues"] with
  | [pod, name, priority, arrival, requeues] =>
    return {
      pod := ← Json.required PodId.ofJson? pod
      name := ← Json.required Json.text? name
      priority := ← Json.required Json.int32? priority
      arrival := ← Json.required Json.word64? arrival
      requeues := ← Json.required Json.word32? requeues }
  | _ => none

end QueueEntry

namespace ClusterMetrics

/-- Metrics as an object. -/
def toJson (metrics : ClusterMetrics) : Json :=
  .object
    [("tick", .ofWord64 metrics.tick),
     ("clock", metrics.clock.toJson),
     ("nodes", .array (metrics.nodes.map NodeSnapshot.toJson)),
     ("pods", .array (metrics.pods.map Pod.toJson)),
     ("queue", .array (metrics.queue.map QueueEntry.toJson))]

/-- Reads metrics. -/
def ofJson? (json : Json) : Option ClusterMetrics := do
  match ← json.fields? ["tick", "clock", "nodes", "pods", "queue"] with
  | [tick, clock, nodes, pods, queue] =>
    return {
      tick := ← Json.required Json.word64? tick
      clock := ← Json.required Instant.ofJson? clock
      nodes := ← Json.required (Json.list? NodeSnapshot.ofJson?) nodes
      pods := ← Json.required (Json.list? Pod.ofJson?) pods
      queue := ← Json.required (Json.list? QueueEntry.ofJson?) queue }
  | _ => none

end ClusterMetrics

namespace Strategy

/-- A strategy as its keyword. -/
def toJson (strategy : Strategy) : Json := .text strategy.keyword

/-- Reads a strategy: its keyword, alone or as the only member of an object, with null. -/
def ofJson? : Json → Option Strategy
  | .text keyword => ofKeyword? keyword
  | .object [(keyword, .null)] => ofKeyword? keyword
  | _ => none

end Strategy

namespace EndReason

/-- A reason as its name, with the reason of the stop if there was one. -/
def toJson : EndReason → Json
  | .maxTicksReached => .text "MaxTicksReached"
  | .stopped reason => .object [("Stopped", .text reason)]

/-- Reads a reason. -/
def ofJson? : Json → Option EndReason
  | .text "MaxTicksReached" => some .maxTicksReached
  | .object [("MaxTicksReached", .null)] => some .maxTicksReached
  | .object [("Stopped", .text reason)] => some (.stopped reason)
  | _ => none

end EndReason

end ClusterSim
