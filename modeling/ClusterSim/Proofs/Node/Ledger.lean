import ClusterSim.Node
import ClusterSim.Proofs.Resources

/-!
# The ledger of a node

A node keeps the sum of the demands of its pods beside the pods. Main statements: a pod that fits
can be bound, since what is available leaves room for the sum (`bind_of_fits`); and the kept sum is
exact and within the capacity after any series of attempts to bind (`Built.ledger`).
-/

namespace ClusterSim

/-- The pod as it stands on a node where it was bound. -/
def Pod.placedOn (pod : Pod) (name : NodeName) (since : Instant) : Pod :=
  { pod with status := .bound name since }

/-- The pod apart from where it stands. -/
def Pod.unplaced (pod : Pod) : Pod := { pod with status := .pending }

/-- The exact sum of the demands of pods in a dimension. -/
def Pod.totalDemand (pods : List Pod) (d : String) : Nat :=
  (pods.map fun pod => pod.demand.amount d).sum

namespace Node

/-! ### Binding -/

theorem amount_available (node : Node) (d : String) :
    node.available.amount d = node.capacity.amount d - node.allocated.amount d :=
  Resources.amount_sub _ _ d

/-- Whatever the node holds, the sum of what is allocated and a demand that is available stays
below the greatest amount. -/
theorem isSome_add?_of_fits {node : Node} {pod : Pod} (h : node.fits pod) :
    (node.allocated.add? pod.demand).isSome := by
  refine Resources.isSome_add?_iff.2 fun d => ?_
  have hd : pod.demand.amount d ≤ node.available.amount d := Resources.covers_iff.1 h d
  -- an overdrawn node has nothing left, so the demand is zero there
  have havail := node.amount_available d
  have hcap := node.capacity.amount_lt d
  have halloc := node.allocated.amount_lt d
  omega

/-- A pod that fits is bound. -/
theorem bind_of_fits {node : Node} {pod : Pod} (h : node.fits pod) (now : Instant) :
    ∃ allocated, node.allocated.add? pod.demand = some allocated ∧
      node.bind now pod = .ok { node with
        allocated
        pods := node.pods ++ [pod.placedOn node.name now] } := by
  obtain ⟨allocated, hadd⟩ := Option.isSome_iff_exists.1 (isSome_add?_of_fits h)
  refine ⟨allocated, hadd, ?_⟩
  rw [bind, if_pos h, hadd]
  rfl

theorem bind_of_not_fits {node : Node} {pod : Pod} (h : ¬ node.fits pod) (now : Instant) :
    node.bind now pod =
      .error (.insufficientCapacity node.name pod.name pod.demand node.available) := by
  rw [bind, if_neg h]

/-- What a bind that succeeds does to the node. -/
theorem of_bind_eq_ok {node bound : Node} {now : Instant} {pod : Pod}
    (h : node.bind now pod = .ok bound) :
    node.fits pod ∧ ∃ allocated, node.allocated.add? pod.demand = some allocated ∧
      bound = { node with allocated, pods := node.pods ++ [pod.placedOn node.name now] } := by
  by_cases hfits : node.fits pod
  · obtain ⟨allocated, hadd, hbind⟩ := bind_of_fits hfits now
    refine ⟨hfits, allocated, hadd, ?_⟩
    rw [hbind] at h
    exact (Except.ok.inj h).symm
  · rw [bind_of_not_fits hfits] at h
    cases h

/-- A bind takes the demand of the pod away from what is available. -/
theorem amount_available_of_bind {node bound : Node} {now : Instant} {pod : Pod}
    (h : node.bind now pod = .ok bound) (d : String) :
    bound.available.amount d = node.available.amount d - pod.demand.amount d := by
  obtain ⟨-, allocated, hadd, rfl⟩ := of_bind_eq_ok h
  rw [amount_available, amount_available, Resources.amount_of_add? hadd, Nat.sub_sub]

theorem pods_of_bind {node bound : Node} {now : Instant} {pod : Pod}
    (h : node.bind now pod = .ok bound) :
    bound.pods = node.pods ++ [pod.placedOn node.name now] := by
  obtain ⟨-, allocated, -, rfl⟩ := of_bind_eq_ok h
  rfl

/-- Binding leaves nothing more available, so what fits afterwards has fitted before. -/
theorem fits_of_fits_bind {node bound : Node} {now : Instant} {pod other : Pod}
    (h : node.bind now pod = .ok bound) (hfits : bound.fits other) : node.fits other := by
  refine Resources.covers_iff.2 fun d => ?_
  have hd := Resources.covers_iff.1 hfits d
  rw [amount_available_of_bind h] at hd
  omega

theorem name_of_bind {node bound : Node} {now : Instant} {pod : Pod}
    (h : node.bind now pod = .ok bound) :
    bound.name = node.name ∧ bound.capacity = node.capacity := by
  obtain ⟨-, allocated, -, rfl⟩ := of_bind_eq_ok h
  exact ⟨rfl, rfl⟩

/-! ### Attempts -/

/-- The node after an attempt to bind a pod: one that refuses stays as it is. -/
def attempt (node : Node) (now : Instant) (pod : Pod) : Node :=
  match node.bind now pod with
  | .ok bound => bound
  | .error _ => node

/-- The node after attempts to bind pods, each at its instant. -/
def attempts (node : Node) (series : List (Instant × Pod)) : Node :=
  series.foldl (fun node trial => node.attempt trial.1 trial.2) node

theorem attempt_of_bind {node bound : Node} {now : Instant} {pod : Pod}
    (h : node.bind now pod = .ok bound) : node.attempt now pod = bound := by
  rw [attempt, h]

theorem attempts_append (node : Node) (series more : List (Instant × Pod)) :
    node.attempts (series ++ more) = (node.attempts series).attempts more :=
  List.foldl_append

theorem attempt_eq_or_bind (node : Node) (now : Instant) (pod : Pod) :
    node.attempt now pod = node ∨ node.bind now pod = .ok (node.attempt now pod) := by
  unfold attempt
  split
  · rename_i bound hbind
    exact .inr hbind
  · exact .inl rfl

/-- What every bind that succeeds keeps, a series of attempts keeps. -/
theorem attempts_induction {P : Node → Prop} {node : Node} (start : P node)
    (step : ∀ {node bound : Node} {now : Instant} {pod : Pod},
      P node → node.bind now pod = .ok bound → P bound)
    (series : List (Instant × Pod)) : P (node.attempts series) := by
  induction series generalizing node with
  | nil => exact start
  | cons trial rest ih =>
    show P ((node.attempt trial.1 trial.2).attempts rest)
    rcases attempt_eq_or_bind node trial.1 trial.2 with heq | hbind
    · exact ih (heq.symm ▸ start)
    · exact ih (step start hbind)

/-! ### The ledger -/

/-- The books of a node are in order. -/
structure Ledger (node : Node) : Prop where
  /-- The kept sum is the exact sum of the demands. -/
  allocated_eq : ∀ d, node.allocated.amount d = Pod.totalDemand node.pods d
  /-- No dimension is overdrawn. -/
  allocated_le : ∀ d, node.allocated.amount d ≤ node.capacity.amount d
  /-- What is available and what is allocated make up the capacity. -/
  available_add : ∀ d,
    node.available.amount d + node.allocated.amount d = node.capacity.amount d
  /-- Exactly the dimensions of the capacity are available. -/
  dimensions_eq : node.available.dimensions = node.capacity.dimensions
  /-- Every pod is marked as bound to this node. -/
  status_eq : ∀ pod ∈ node.pods, ∃ since, pod.status = .bound node.name since

/-- The rest follows from an exact sum that overdraws no dimension. -/
theorem Ledger.of_exact {node : Node}
    (exact : ∀ d, node.allocated.amount d = Pod.totalDemand node.pods d)
    (within : ∀ d, node.allocated.amount d ≤ node.capacity.amount d)
    (status : ∀ pod ∈ node.pods, ∃ since, pod.status = .bound node.name since) :
    node.Ledger where
  allocated_eq := exact
  allocated_le := within
  available_add d := by
    rw [amount_available]
    exact Nat.sub_add_cancel (within d)
  dimensions_eq := Resources.dimensions_sub _ _
  status_eq := status

theorem ledger_new (name : NodeName) (capacity : Resources) : (new name capacity).Ledger := by
  refine .of_exact (fun d => ?_) (fun d => ?_) (fun pod hmem => ?_)
  · rfl
  · exact Nat.zero_le _
  · cases hmem

theorem totalDemand_append (pods : List Pod) (pod : Pod) (d : String) :
    Pod.totalDemand (pods ++ [pod]) d = Pod.totalDemand pods d + pod.demand.amount d := by
  rw [Pod.totalDemand, List.map_append, List.sum_append]
  rfl

theorem Ledger.bind {node bound : Node} {now : Instant} {pod : Pod} (h : node.Ledger)
    (hbind : node.bind now pod = .ok bound) : bound.Ledger := by
  obtain ⟨hfits, allocated, hadd, rfl⟩ := of_bind_eq_ok hbind
  refine .of_exact (fun d => ?_) (fun d => ?_) (fun other hmem => ?_)
  · show allocated.amount d = Pod.totalDemand (node.pods ++ [pod.placedOn node.name now]) d
    rw [totalDemand_append, Resources.amount_of_add? hadd, h.allocated_eq]
    rfl
  · show allocated.amount d ≤ node.capacity.amount d
    have hd : pod.demand.amount d ≤ node.available.amount d := Resources.covers_iff.1 hfits d
    have hsum := h.available_add d
    rw [Resources.amount_of_add? hadd]
    omega
  · rcases List.mem_append.1 hmem with hmem | hmem
    · exact h.status_eq other hmem
    · rw [List.mem_singleton.1 hmem]
      exact ⟨now, rfl⟩

/-! ### Nodes that binding can lead to -/

/-- The node is what attempts to bind make of one without pods. -/
def Built (node : Node) : Prop :=
  ∃ series, node = (new node.name node.capacity).attempts series

theorem name_attempts (node : Node) (series : List (Instant × Pod)) :
    (node.attempts series).name = node.name ∧ (node.attempts series).capacity = node.capacity := by
  refine attempts_induction (P := fun other => other.name = node.name ∧
    other.capacity = node.capacity) ⟨rfl, rfl⟩ (fun h hbind => ?_) series
  obtain ⟨hname, hcapacity⟩ := name_of_bind hbind
  exact ⟨hname.trans h.1, hcapacity.trans h.2⟩

theorem ledger_attempts {node : Node} (h : node.Ledger) (series : List (Instant × Pod)) :
    (node.attempts series).Ledger :=
  attempts_induction h Ledger.bind series

theorem Built.ledger {node : Node} (h : node.Built) : node.Ledger := by
  obtain ⟨series, heq⟩ := h
  rw [heq]
  exact ledger_attempts (ledger_new _ _) series

theorem Built.attempts {node : Node} (h : node.Built) (more : List (Instant × Pod)) :
    (node.attempts more).Built := by
  obtain ⟨series, heq⟩ := h
  refine ⟨series ++ more, ?_⟩
  rw [(name_attempts node more).1, (name_attempts node more).2, attempts_append, ← heq]

end Node

end ClusterSim
