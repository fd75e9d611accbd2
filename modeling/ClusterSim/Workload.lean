import ClusterSim.Workload.Random

/-!
# Workloads

The sources of pods that come with the library: a script of batches, a random workload, one that
asks for whatever each node has left, and one that fails.
-/

namespace ClusterSim

/-- A script of batches, one for each tick; after the last one nothing is submitted. -/
structure Script where
  batches : List (List Pod)
deriving DecidableEq

namespace Script

/-- The number of batches that have not been submitted. -/
def remaining (script : Script) : Nat := script.batches.length

/-- The next batch, and the script without it. -/
def take (script : Script) : List Pod × Script :=
  (script.batches.headD [], ⟨script.batches.drop 1⟩)

instance : Submitter Script where
  name _ := "scripted"
  submit script supply _ _ :=
    let (pods, rest) := script.take
    { source := rest, supply, answer := .ok pods, stops := [], events := [] }

end Script

/-- Asks for all that each node has left, with one pod for each node. -/
structure Refill where
  name : String
  priority : Int32
deriving DecidableEq

namespace Refill

/-- The pods that ask for what the nodes have left. -/
def pods (refill : Refill) (now : Instant) : PodId.Supply → List NodeSnapshot →
    List Pod × PodId.Supply
  | supply, [] => ([], supply)
  | supply, node :: rest =>
    let (id, supply) := supply.take
    let name := node.name ++ "#" ++ Text.decimal node.pods.length ++ "@" ++ now.display
    let (others, supply) := refill.pods now supply rest
    (.new id name node.available refill.priority :: others, supply)

instance : Submitter Refill where
  name refill := refill.name
  submit refill supply now nodes :=
    let (pods, supply) := refill.pods now supply nodes
    { source := refill, supply, answer := .ok pods, stops := [], events := [] }

end Refill

/-- Submits nothing and fails when it is asked for the `failsAt`-th time. -/
structure Faulty where
  name : String
  detail : String
  failsAt : Nat
  /-- How often it has been asked. -/
  asked : Nat
deriving DecidableEq

instance : Submitter Faulty where
  name faulty := faulty.name
  submit faulty supply _ _ :=
    let asked := faulty.asked + 1
    { source := { faulty with asked }
      supply
      answer :=
        if asked = faulty.failsAt then .error ⟨faulty.name, faulty.detail⟩ else .ok []
      stops := []
      events := [] }

/-- Any of these sources. -/
inductive Workload where
  | script (script : Script)
  | random (source : RandomSource WordStream)
  | refill (refill : Refill)
  | faulty (faulty : Faulty)

namespace Workload

/-- The reply of a source as that of a workload. -/
def lift {σ : Type} (embed : σ → Workload) (reply : Reply σ) : Reply Workload :=
  { source := embed reply.source
    supply := reply.supply
    answer := reply.answer
    stops := reply.stops
    events := reply.events }

instance : Submitter Workload where
  name
    | .script source => Submitter.name source
    | .random source => Submitter.name source
    | .refill source => Submitter.name source
    | .faulty source => Submitter.name source
  submit
    | .script source, supply, now, nodes =>
      lift .script (Submitter.submit source supply now nodes)
    | .random source, supply, now, nodes =>
      lift .random (Submitter.submit source supply now nodes)
    | .refill source, supply, now, nodes =>
      lift .refill (Submitter.submit source supply now nodes)
    | .faulty source, supply, now, nodes =>
      lift .faulty (Submitter.submit source supply now nodes)

end Workload

end ClusterSim
