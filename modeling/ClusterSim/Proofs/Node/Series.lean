import ClusterSim.Proofs.Node.Ledger

/-!
# Binding a set of pods

Pods are bound one after another, each at its instant, until one is refused. Each of them takes its
demand away from what is available, so all are bound exactly if the exact sum of their demands is
available (`exists_bindAll_iff`), and what becomes of the node depends on the pods and not on their
order. Main statement: `binding_order_irrelevant`.
-/

namespace ClusterSim

namespace Node

variable {node bound rebound : Node} {series others : List (Instant × Pod)}

/-- Binds pods one after another, each at its instant, until one is refused. -/
def bindAll (node : Node) (series : List (Instant × Pod)) : Except NodeError Node :=
  series.foldlM (fun node trial => node.bind trial.1 trial.2) node

theorem bindAll_cons_eq_ok_iff {trial : Instant × Pod} :
    node.bindAll (trial :: series) = .ok bound ↔
      ∃ next, node.bind trial.1 trial.2 = .ok next ∧ next.bindAll series = .ok bound := by
  unfold bindAll
  rw [List.foldlM_cons]
  cases node.bind trial.1 trial.2 with
  | ok next =>
    show next.bindAll series = .ok bound ↔ _
    simp [bindAll]
  | error refusal =>
    show Except.error refusal = .ok bound ↔ _
    simp

theorem totalDemand_cons (trial : Instant × Pod) (d : String) :
    Pod.totalDemand ((trial :: series).map (·.2)) d =
      trial.2.demand.amount d + Pod.totalDemand (series.map (·.2)) d := by
  unfold Pod.totalDemand
  simp

/-! ### Whether all pods are bound -/

theorem fits_iff {pod : Pod} :
    node.fits pod ↔ ∀ d, pod.demand.amount d ≤ node.available.amount d :=
  Resources.covers_iff

theorem exists_bind_iff {now : Instant} {pod : Pod} :
    (∃ bound, node.bind now pod = .ok bound) ↔ node.fits pod := by
  constructor
  · rintro ⟨bound, h⟩
    exact (of_bind_eq_ok h).1
  · intro h
    obtain ⟨allocated, -, hbind⟩ := bind_of_fits h now
    exact ⟨_, hbind⟩

/-- All pods of a series are bound exactly if the sum of their demands is available. -/
theorem exists_bindAll_iff :
    (∃ bound, node.bindAll series = .ok bound) ↔
      ∀ d, Pod.totalDemand (series.map (·.2)) d ≤ node.available.amount d := by
  induction series generalizing node with
  | nil => exact ⟨fun _ d => Nat.zero_le _, fun _ => ⟨node, rfl⟩⟩
  | cons trial rest ih =>
    constructor
    · rintro ⟨bound, h⟩ d
      obtain ⟨next, hbind, hrest⟩ := bindAll_cons_eq_ok_iff.1 h
      have hfirst := fits_iff.1 (of_bind_eq_ok hbind).1 d
      have hlater := ih.1 ⟨bound, hrest⟩ d
      rw [amount_available_of_bind hbind] at hlater
      rw [totalDemand_cons]
      omega
    · intro h
      simp only [totalDemand_cons] at h
      have hfits : node.fits trial.2 := by
        apply fits_iff.2
        intro d
        have hd := h d
        omega
      obtain ⟨next, hbind⟩ : ∃ next, node.bind trial.1 trial.2 = .ok next :=
        exists_bind_iff.2 hfits
      have hlater : ∀ d, Pod.totalDemand (rest.map (·.2)) d ≤ next.available.amount d := by
        intro d
        have hd := h d
        rw [amount_available_of_bind hbind]
        omega
      obtain ⟨bound, hrest⟩ := ih.2 hlater
      exact ⟨bound, bindAll_cons_eq_ok_iff.2 ⟨next, hbind, hrest⟩⟩

/-! ### What becomes of the node -/

/-- The node has taken up the pods of a series. -/
structure Absorbed (node : Node) (series : List (Instant × Pod)) (bound : Node) : Prop where
  name_eq : bound.name = node.name
  capacity_eq : bound.capacity = node.capacity
  pods_eq : bound.pods = node.pods ++ series.map fun trial => trial.2.placedOn node.name trial.1
  amount_allocated : ∀ d, bound.allocated.amount d =
    node.allocated.amount d + Pod.totalDemand (series.map (·.2)) d
  /-- A dimension is there if some pod names it, even with an amount of zero. -/
  mem_dimensions : ∀ d, d ∈ bound.allocated.dimensions ↔
    d ∈ node.allocated.dimensions ∨ ∃ pod ∈ series.map (·.2), d ∈ pod.demand.dimensions

theorem absorbed_nil : node.Absorbed [] node where
  name_eq := rfl
  capacity_eq := rfl
  pods_eq := (List.append_nil _).symm
  amount_allocated _ := rfl
  mem_dimensions d := by simp

theorem Absorbed.cons {next : Node} {trial : Instant × Pod} (h : next.Absorbed series bound)
    (hbind : node.bind trial.1 trial.2 = .ok next) : node.Absorbed (trial :: series) bound := by
  obtain ⟨-, allocated, hadd, rfl⟩ := of_bind_eq_ok hbind
  refine ⟨h.name_eq, h.capacity_eq, ?_, fun d => ?_, fun d => ?_⟩
  · rw [h.pods_eq, List.map_cons, List.append_assoc]
    rfl
  · rw [h.amount_allocated, Resources.amount_of_add? hadd, totalDemand_cons, Nat.add_assoc]
  · rw [h.mem_dimensions, Resources.mem_dimensions_of_add? hadd]
    simp [or_assoc]

theorem absorbed_of_bindAll (h : node.bindAll series = .ok bound) :
    node.Absorbed series bound := by
  induction series generalizing node with
  | nil =>
    cases h
    exact absorbed_nil
  | cons trial rest ih =>
    obtain ⟨next, hbind, hrest⟩ := bindAll_cons_eq_ok_iff.1 h
    exact (ih hrest).cons hbind

/-! ### Another order -/

theorem totalDemand_perm {pods more : List Pod} (h : pods.Perm more) (d : String) :
    Pod.totalDemand pods d = Pod.totalDemand more d :=
  (h.map _).sum_nat

theorem Absorbed.allocated_eq (h : node.Absorbed series bound)
    (hother : node.Absorbed others rebound) (hperm : (others.map (·.2)).Perm (series.map (·.2))) :
    rebound.allocated = bound.allocated := by
  apply Resources.ext_amount
  · intro d
    rw [hother.mem_dimensions, h.mem_dimensions]
    simp only [hperm.mem_iff]
  · intro d
    rw [hother.amount_allocated, h.amount_allocated, totalDemand_perm hperm]

theorem Absorbed.available_eq (h : node.Absorbed series bound)
    (hother : node.Absorbed others rebound) (hperm : (others.map (·.2)).Perm (series.map (·.2))) :
    rebound.available = bound.available := by
  unfold available
  rw [h.allocated_eq hother hperm, hother.capacity_eq, h.capacity_eq]

/-- Apart from their place and the time of binding the pods of a series are on the node as they are
in the series. -/
theorem Absorbed.map_unplaced_pods (h : node.Absorbed series bound) :
    bound.pods.map Pod.unplaced =
      node.pods.map Pod.unplaced ++ (series.map (·.2)).map Pod.unplaced := by
  rw [h.pods_eq, List.map_append, List.map_map, List.map_map]
  rfl

end Node

/-- Whatever a node holds, binding pods one after another succeeds for all of them exactly if in
each dimension the exact sum of their demands is available, where nothing is available of a
dimension that the capacity lacks. So if it succeeds in one order, it succeeds in every other, at
whatever instants, and leaves the same amounts allocated and available and the same pods; they stand
there with the same marks if each is bound at the same instant. And a pod fits, fits on a view of
the node, and is bound all alike. -/
theorem binding_order_irrelevant (node : Node) (series : List (Instant × Pod)) :
    ((∃ bound, node.bindAll series = .ok bound) ↔
      ∀ d, Pod.totalDemand (series.map (·.2)) d ≤ node.available.amount d) ∧
    (∀ d, d ∉ node.capacity.dimensions → node.available.amount d = 0) ∧
    (∀ bound others, node.bindAll series = .ok bound →
      (others.map (·.2)).Perm (series.map (·.2)) →
      ∃ rebound, node.bindAll others = .ok rebound ∧
        rebound.allocated = bound.allocated ∧ rebound.available = bound.available ∧
        (rebound.pods.map Pod.unplaced).Perm (bound.pods.map Pod.unplaced) ∧
        (others.Perm series → rebound.pods.Perm bound.pods)) ∧
    ∀ (pod : Pod) (viewed now : Instant),
      (node.fits pod ↔ (node.snapshot viewed).fits pod) ∧
      (node.fits pod ↔ ∃ bound, node.bind now pod = .ok bound) := by
  refine ⟨Node.exists_bindAll_iff, fun d hd => ?_, fun bound others h hperm => ?_, ?_⟩
  · apply Resources.amount_of_not_mem_dimensions
    rwa [Node.available, Resources.dimensions_sub]
  · have hroom := Node.exists_bindAll_iff.1 ⟨bound, h⟩
    simp only [← Node.totalDemand_perm hperm] at hroom
    obtain ⟨rebound, hothers⟩ := Node.exists_bindAll_iff.2 hroom
    have habsorbed := Node.absorbed_of_bindAll h
    have hother := Node.absorbed_of_bindAll hothers
    refine ⟨rebound, hothers, habsorbed.allocated_eq hother hperm,
      habsorbed.available_eq hother hperm, ?_, fun hsame => ?_⟩
    · rw [hother.map_unplaced_pods, habsorbed.map_unplaced_pods]
      exact (hperm.map _).append_left _
    · rw [hother.pods_eq, habsorbed.pods_eq]
      exact (hsame.map _).append_left _
  · intro pod viewed now
    exact ⟨Iff.rfl, Node.exists_bind_iff.symm⟩

/-- Two pods use up a node, and one of them names a dimension that the node lacks, with an amount of
zero. In the other order and at other instants the same is allocated, the zero included. -/
theorem binding_order_irrelevant_exact_fit :
    let node : Node := .new "node-a" (.ofList [("cpu", 1000), ("memory", 64)])
    let web : Pod := .new ⟨1⟩ "web" (.ofList [("cpu", 600), ("gpu", 0)]) 0
    let job : Pod := .new ⟨2⟩ "job" (.ofList [("cpu", 400), ("memory", 64)]) 5
    let turned : List (Instant × Pod) := [(.latest, job), (.earliest, web)]
    ∃ rebound, node.bindAll turned = .ok rebound ∧
      rebound.allocated.toList = [("cpu", 1000), ("gpu", 0), ("memory", 64)] ∧
      rebound.available.toList = [("cpu", 0), ("memory", 0)] ∧
      (rebound.pods.map Pod.unplaced).Perm [web, job] := by
  intro node web job turned
  let series : List (Instant × Pod) := [(.epoch, web), (.epoch, job)]
  let bound : Node :=
    { node with
      allocated := .ofList [("cpu", 1000), ("gpu", 0), ("memory", 64)]
      pods := [web.placedOn "node-a" .epoch, job.placedOn "node-a" .epoch] }
  have hbound : node.bindAll series = .ok bound := by decide +kernel
  have hperm : (turned.map (·.2)).Perm (series.map (·.2)) := .swap web job []
  obtain ⟨rebound, hrebound, hallocated, havailable, hpods, -⟩ :=
    (binding_order_irrelevant node series).2.2.1 bound turned hbound hperm
  refine ⟨rebound, hrebound, ?_, ?_, hpods⟩
  · rw [hallocated]
    decide +kernel
  · rw [havailable]
    decide +kernel

end ClusterSim
