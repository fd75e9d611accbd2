import ClusterSim.Log.Event
import ClusterSim.Node

/-!
# Sources of pods

A source is asked for new pods in every tick. Its answer may depend on its own state, on the clock
and on the nodes as they stand, and it may request a stop or report events meanwhile. New pods take
their identities from a supply that all sources share.
-/

namespace ClusterSim

/-- A source could not answer. -/
structure SubmitError where
  name : String
  detail : String
deriving DecidableEq

/-- The message of the error. -/
def SubmitError.message (e : SubmitError) : String :=
  "submitter " ++ e.name ++ " failed: " ++ e.detail

/-- What comes of asking a source. -/
structure Reply (σ : Type) where
  /-- The source as it is afterwards. -/
  source : σ
  supply : PodId.Supply
  answer : Except SubmitError (List Pod)
  /-- The reasons of the stops requested meanwhile, in order. -/
  stops : List String
  events : List Event

/-- A type of sources of pods. -/
class Submitter (σ : Type) where
  /-- The name in logs. -/
  name : σ → String
  /-- Asks for the pods of a tick. -/
  submit : σ → PodId.Supply → Instant → List NodeSnapshot → Reply σ

end ClusterSim
