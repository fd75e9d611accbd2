import ClusterSim.Proofs.Tick.Course
import ClusterSim.Workload

/-!
# How a tick can fail

In a cluster that was reached by ticks a chosen node never refuses the pod. Main statement:
`only_sources_fail`, a tick fails exactly if a source fails, and with the error of that source.
-/

namespace ClusterSim

/-- The result of a tick in a cluster with every node under its own name. -/
theorem Cluster.Keyed.result_tick {cluster : Cluster} (h : cluster.Keyed) {σ : Type} [Submitter σ]
    (number : UInt64) (now : Instant) (supply : PodId.Supply) (sources : List σ) :
    (∃ fault, cluster.Fails now supply sources fault ∧
      (cluster.tick number now supply sources).result = .error (.submitter fault)) ∨
    (∀ fault, ¬ cluster.Fails now supply sources fault) ∧
      ∃ summary, (cluster.tick number now supply sources).result = .ok summary := by
  rcases tick_cases (rfl : cluster.tick number now supply sources = _) with
    ⟨fault, hfails, -, -, hresult⟩ | ⟨hnone, placement, hplaced, hresult⟩
  · exact .inl ⟨fault, hfails, hresult⟩
  · have hfilled : (cluster.filled now supply sources).Keyed := h
    obtain ⟨outcome, rfl⟩ := hfilled.placement_ok hplaced
    exact .inr ⟨hnone, _, hresult⟩

/-- Whatever nodes a cluster starts with and whatever ticks have gone before, a tick never fails
for a bind that was refused or for a node that is not there; it fails with the error of a source
that it asked, and exactly then. -/
theorem only_sources_fail {nodes : List Node} {strategy : Strategy} {records : List TickRecord}
    {cluster : Cluster} (h : Course (.new nodes strategy) records cluster) {σ : Type}
    [Submitter σ] (number : UInt64) (now : Instant) (supply : PodId.Supply) (sources : List σ) :
    (∀ error, (cluster.tick number now supply sources).result ≠ .error (.bind error)) ∧
    (∀ name, (cluster.tick number now supply sources).result ≠ .error (.unknownNode name)) ∧
    ∀ fault, (cluster.tick number now supply sources).result = .error (.submitter fault) ↔
      cluster.Fails now supply sources fault := by
  have hkeyed := h.keyed (Cluster.keyed_new nodes strategy)
  rcases hkeyed.result_tick number now supply sources with
    ⟨first, hfirst, hresult⟩ | ⟨hnone, summary, hresult⟩
  · rw [hresult]
    refine ⟨fun error heq => ?_, fun name heq => ?_, fun fault => ⟨fun heq => ?_, fun hfails => ?_⟩⟩
    · cases heq
    · cases heq
    · cases heq
      exact hfirst
    · rw [hfirst.unique hfails]
  · rw [hresult]
    refine ⟨fun error heq => ?_, fun name heq => ?_, fun fault => ⟨fun heq => ?_, fun hfails => ?_⟩⟩
    · cases heq
    · cases heq
    · cases heq
    · exact absurd hfails (hnone fault)

/-- A cluster that has bound a pod, and then a source that fails. -/
theorem only_sources_fail_second_tick :
    let faulty : Faulty := ⟨"trace", "out of workload", 1, 0⟩
    let script : Script := ⟨[[.new ⟨7⟩ "web" (.ofList [("cpu", 300)]) 0]]⟩
    let node : Node := .new "node-a" (.ofList [("cpu", 1000)])
    let cluster := ((Cluster.new [node] .leastAllocated).tick 1 .epoch .fresh [script]).cluster
    (cluster.tick 2 .epoch .fresh [faulty]).result =
      .error (.submitter ⟨"trace", "out of workload"⟩) :=
  ((only_sources_fail (.next .start 1 .epoch .fresh [_]) 2 .epoch .fresh [_]).2.2 _).2
    ⟨_, List.mem_cons_self, rfl⟩

end ClusterSim
