import ClusterSim.Text.Dump

/-!
# Stopping a simulation

A stop is requested with a reason. The first reason stays; later requests change nothing.
-/

namespace ClusterSim

/-- Whether a stop has been requested, and why. -/
structure StopRequest where
  reason : Option String
deriving DecidableEq

namespace StopRequest

/-- No stop has been requested. -/
def none : StopRequest := ⟨.none⟩

/-- Requests a stop. -/
def request (stop : StopRequest) (reason : String) : StopRequest :=
  match stop.reason with
  | some _ => stop
  | .none => ⟨some reason⟩

/-- Requests a stop for each reason in turn. -/
def requestAll (stop : StopRequest) (reasons : List String) : StopRequest :=
  reasons.foldl request stop

/-- Whether a stop has been requested. -/
def isRequested (stop : StopRequest) : Bool := stop.reason.isSome

/-- The reason of the first request stays. -/
theorem reason_request (stop : StopRequest) (reason : String) :
    (stop.request reason).reason = stop.reason.or (some reason) := by
  obtain ⟨_ | first⟩ := stop
  · rfl
  · rfl

theorem reason_requestAll (stop : StopRequest) (reasons : List String) :
    (stop.requestAll reasons).reason = stop.reason.or reasons.head? := by
  induction reasons generalizing stop with
  | nil => rw [List.head?_nil, Option.or_none]; rfl
  | cons reason rest ih =>
    show ((stop.request reason).requestAll rest).reason = _
    rw [ih, reason_request, Option.or_assoc]
    rfl

theorem requestAll_append (stop : StopRequest) (reasons more : List String) :
    stop.requestAll (reasons ++ more) = (stop.requestAll reasons).requestAll more :=
  List.foldl_append

end StopRequest

/-- Why a simulation ended. -/
inductive EndReason where
  /-- All ticks have been executed. -/
  | maxTicksReached
  /-- A stop was requested. -/
  | stopped (reason : String)
deriving DecidableEq

/-- The reason as a dump shows it. -/
def EndReason.dump : EndReason → Dump
  | .maxTicksReached => .bare "MaxTicksReached"
  | .stopped reason => .applied "Stopped" (.text reason)

end ClusterSim
