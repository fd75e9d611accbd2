import ClusterSim.Log.Event
import ClusterSim.Tick

/-!
# Observers

An observer is told of every tick that succeeded. It cannot change the cluster, but it may request a
stop and report events.
-/

namespace ClusterSim

/-- What comes of telling an observer. -/
structure Observation (ω : Type) where
  observer : ω
  /-- The reasons of the stops requested meanwhile, in order. -/
  stops : List String
  events : List Event

/-- A type of observers. -/
class Observer (ω : Type) where
  /-- Tells of a tick and of the cluster after it. -/
  observe : ω → TickSummary → Cluster → Observation ω

/-- Nothing is observed. -/
instance : Observer Unit := ⟨fun _ _ _ => ⟨(), [], []⟩⟩

/-- Two observers, told one after the other. -/
instance {α β : Type} [Observer α] [Observer β] : Observer (α × β) where
  observe pair summary cluster :=
    let first := Observer.observe pair.1 summary cluster
    let second := Observer.observe pair.2 summary cluster
    ⟨(first.observer, second.observer), first.stops ++ second.stops,
      first.events ++ second.events⟩

end ClusterSim
