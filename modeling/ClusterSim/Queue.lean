import ClusterSim.Counter
import ClusterSim.Pod

/-!
# The queue of pending pods

Pods leave the queue by descending priority and, within one priority, in the order in which they
came. A pod that could not be placed goes back behind all pods of its priority. The pods of one
priority form a tier.
-/

namespace ClusterSim

/-- A pod in the queue. -/
structure QueuedPod where
  pod : Pod
  /-- How many pods had been pushed before this one. -/
  arrival : UInt64
  /-- How often the pod has been placed back. -/
  requeues : UInt32
deriving DecidableEq

/-- The pods of one priority, in the order in which they leave. -/
structure Tier where
  priority : Int32
  waiting : List QueuedPod
deriving DecidableEq

/-- The pending pods, in tiers of descending priority. -/
structure PodQueue where
  tiers : List Tier
  nextArrival : UInt64
  /-- How many pods the tiers hold. -/
  count : UInt64
deriving DecidableEq

/-- Why no pod can be taken from the queue. -/
inductive QueueError where
  /-- No pod is pending. -/
  | empty
deriving DecidableEq

/-- The message of the error. -/
def QueueError.message : QueueError → String
  | .empty => "pod queue is empty"

namespace PodQueue

/-- The queue without pods. -/
def empty : PodQueue := ⟨[], 0, 0⟩

/-- Adds a pod behind the tier of its priority. -/
def enqueueTier (entry : QueuedPod) : List Tier → List Tier
  | [] => [⟨entry.pod.priority, [entry]⟩]
  | tier :: rest =>
    if tier.priority < entry.pod.priority then ⟨entry.pod.priority, [entry]⟩ :: tier :: rest
    else if tier.priority = entry.pod.priority then
      { tier with waiting := tier.waiting ++ [entry] } :: rest
    else tier :: enqueueTier entry rest

/-- Adds a pod behind all pods of its priority. -/
def enqueue (queue : PodQueue) (entry : QueuedPod) : PodQueue :=
  { queue with
    tiers := enqueueTier entry queue.tiers
    count := Counter.next64 queue.count }

/-- Adds a new pod. -/
def push (queue : PodQueue) (pod : Pod) : PodQueue :=
  let entry : QueuedPod := { pod, arrival := queue.nextArrival, requeues := 0 }
  { queue.enqueue entry with nextArrival := Counter.next64 queue.nextArrival }

/-- Adds new pods from left to right. -/
def pushAll (queue : PodQueue) (pods : List Pod) : PodQueue := pods.foldl push queue

/-- Takes the first pod. -/
def pop (queue : PodQueue) : Except QueueError (QueuedPod × PodQueue) :=
  let count := Counter.previous64 queue.count
  match queue.tiers with
  | [] => .error .empty
  | ⟨_, []⟩ :: _ => .error .empty
  | ⟨_, [entry]⟩ :: rest => .ok (entry, { queue with tiers := rest, count })
  | ⟨priority, entry :: waiting⟩ :: rest =>
    .ok (entry, { queue with tiers := ⟨priority, waiting⟩ :: rest, count })

/-- Adds a pod again that could not be placed. -/
def placeBack (queue : PodQueue) (entry : QueuedPod) : PodQueue :=
  queue.enqueue { entry with requeues := Counter.next32 entry.requeues }

/-- The pods in the order in which they leave. -/
def toList (queue : PodQueue) : List QueuedPod := queue.tiers.flatMap (·.waiting)

/-- The number of pods, as it has been counted. -/
def size (queue : PodQueue) : Nat := queue.count.toNat

/-- Whether no pod is pending. -/
def isEmpty (queue : PodQueue) : Bool := queue.count = 0

end PodQueue

end ClusterSim
