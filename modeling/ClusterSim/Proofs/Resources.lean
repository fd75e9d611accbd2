import ClusterSim.Proofs.NameMap
import ClusterSim.Resources
import Mathlib.Algebra.GroupWithZero.Nat

/-!
# Amounts of resources, dimension by dimension

Covering, adding and subtracting are what they are in each dimension, on natural numbers: a sum
exists exactly if no dimension exceeds 64 bits, and then it is exact.
-/

namespace ClusterSim.Resources

/-- The dimensions that are present, in order. -/
def dimensions (r : Resources) : List String := r.amounts.names

/-- The amount of a dimension as a natural number. -/
def amount (r : Resources) (dimension : String) : Nat := (r.get dimension).toNat

theorem amount_lt (r : Resources) (d : String) : r.amount d < UInt64.size := (r.get d).toNat_lt

/-- The list of entries from the dimensions and what is read of them. -/
theorem toList_eq_map (r : Resources) : r.toList = r.dimensions.map fun d => (d, r.get d) := by
  unfold dimensions NameMap.names
  rw [List.map_map]
  refine (List.map_id _).symm.trans (List.map_congr_left ?_)
  rintro ⟨d, a⟩ hmem
  simp [get, NameMap.get?_of_mem_entries hmem]

theorem get_insert (r : Resources) (d other : String) (a : Amount) :
    (r.insert d a).get other = if other = d then a else r.get other := by
  unfold get insert
  rw [NameMap.get?_insert]
  split <;> rfl

theorem amount_insert (r : Resources) (d other : String) (a : Amount) :
    (r.insert d a).amount other = if other = d then a.toNat else r.amount other := by
  unfold amount
  rw [get_insert]
  split <;> rfl

theorem mem_dimensions_insert {r : Resources} {d other : String} {a : Amount} :
    other ∈ (r.insert d a).dimensions ↔ other = d ∨ other ∈ r.dimensions := by
  unfold dimensions insert
  rw [NameMap.mem_names_iff, NameMap.get?_insert, NameMap.mem_names_iff]
  by_cases h : other = d <;> simp [h]

theorem amount_of_not_mem_dimensions {r : Resources} {d : String} (h : d ∉ r.dimensions) :
    r.amount d = 0 := by
  unfold amount get
  cases hget : r.amounts.get? d with
  | none => rfl
  | some a => exact absurd (NameMap.mem_names_iff.2 ⟨a, hget⟩) h

/-- An absent dimension and an explicit zero have the same amount, so equality needs the dimensions
beside the amounts. -/
theorem ext_amount {a b : Resources} (hdim : ∀ d, d ∈ a.dimensions ↔ d ∈ b.dimensions)
    (hamount : ∀ d, a.amount d = b.amount d) : a = b := by
  have hget : a.amounts = b.amounts := by
    apply NameMap.ext_get?
    intro d
    have hd := hdim d
    have had : (a.get d) = b.get d := UInt64.toNat_inj.1 (hamount d)
    unfold get at had
    unfold dimensions at hd
    rw [NameMap.mem_names_iff, NameMap.mem_names_iff] at hd
    cases ha : a.amounts.get? d <;> cases hb : b.amounts.get? d <;> simp_all
  cases a
  cases b
  exact congrArg Resources.mk hget

/-! ### Covering -/

/-- A demand is covered if in each dimension it is at most what is there. -/
theorem covers_iff {r demand : Resources} :
    r.covers demand ↔ ∀ d, demand.amount d ≤ r.amount d := by
  unfold covers
  rw [List.all_eq_true]
  constructor
  · intro h d
    unfold amount
    cases hget : demand.amounts.get? d with
    | none => simp [get, hget]
    | some a =>
      have hle := h (d, a) (NameMap.mem_entries_of_get? hget)
      rw [show demand.get d = a by simp [get, hget]]
      exact UInt64.le_iff_toNat_le.1 (of_decide_eq_true hle)
  · rintro h ⟨d, a⟩ hmem
    have hget : demand.get d = a := by simp [get, NameMap.get?_of_mem_entries hmem]
    exact decide_eq_true (UInt64.le_iff_toNat_le.2 (hget ▸ h d))

/-! ### Subtraction -/

theorem amount_sub (a b : Resources) (d : String) :
    (a.sub b).amount d = a.amount d - b.amount d := by
  unfold amount get sub
  rw [NameMap.get?_mapWithName]
  cases a.amounts.get? d with
  | none => simp
  | some x => exact Amount.toNat_truncatedSub x (b.get d)

@[simp] theorem dimensions_sub (a b : Resources) : (a.sub b).dimensions = a.dimensions :=
  NameMap.names_mapWithName _ _

/-! ### Addition -/

/-- One step of an addition: an entry is added to the sum. -/
def addAmount? (sum : Resources) (entry : String × Amount) : Option Resources :=
  (Amount.add? (sum.get entry.1) entry.2).map (sum.insert entry.1)

theorem add?_eq_foldlM (a b : Resources) : a.add? b = b.toList.foldlM addAmount? a := rfl

theorem isSome_addAmount?_iff {a : Resources} {entry : String × Amount} :
    (a.addAmount? entry).isSome ↔ a.amount entry.1 + entry.2.toNat < UInt64.size := by
  unfold addAmount? Amount.add? amount
  rw [Option.isSome_map]
  split <;> simp_all

theorem amount_of_addAmount? {a c : Resources} {entry : String × Amount}
    (h : a.addAmount? entry = some c) (d : String) :
    c.amount d = a.amount d + if d = entry.1 then entry.2.toNat else 0 := by
  obtain ⟨total, hadd, rfl⟩ := Option.map_eq_some_iff.1 h
  rw [amount_insert]
  split
  · rename_i heq
    rw [Amount.toNat_of_add? hadd, heq]
    rfl
  · rfl

/-- What a list of entries adds to a dimension. -/
def contribution (entries : List (String × Amount)) (d : String) : Nat :=
  (entries.map fun entry => if d = entry.1 then entry.2.toNat else 0).sum

theorem contribution_cons (entry : String × Amount) (rest : List (String × Amount)) (d : String) :
    contribution (entry :: rest) d =
      (if d = entry.1 then entry.2.toNat else 0) + contribution rest d := by
  rw [contribution, List.map_cons, List.sum_cons]
  rfl

theorem contribution_eq_zero {entries : List (String × Amount)} {d : String}
    (h : ∀ entry ∈ entries, d ≠ entry.1) : contribution entries d = 0 := by
  induction entries with
  | nil => rfl
  | cons entry rest ih =>
    rw [contribution_cons, if_neg (h entry List.mem_cons_self),
      ih fun other hmem => h other (List.mem_cons_of_mem _ hmem)]

/-- Of ascending entries only one contributes to a dimension. -/
theorem contribution_eq_lookup {entries : List (String × Amount)}
    (h : entries.Pairwise (fun a b => a.1 < b.1)) (d : String) :
    contribution entries d = ((entries.lookup d).getD 0).toNat := by
  induction entries with
  | nil => rfl
  | cons entry rest ih =>
    obtain ⟨hlt, hrest⟩ := List.pairwise_cons.1 h
    rw [contribution_cons, List.lookup_cons]
    by_cases hd : d = entry.1
    · have hzero : contribution rest d = 0 := by
        refine contribution_eq_zero fun other hmem heq => ?_
        exact String.lt_irrefl _ (hd ▸ heq ▸ hlt other hmem)
      rw [if_pos hd, hzero, hd, BEq.rfl]
      rfl
    · rw [if_neg hd, beq_false_of_ne hd, Nat.zero_add]
      exact ih hrest

theorem contribution_toList (r : Resources) (d : String) : contribution r.toList d = r.amount d :=
  contribution_eq_lookup r.amounts.ascending d

theorem amount_of_foldlM {entries : List (String × Amount)} {a c : Resources}
    (h : entries.foldlM addAmount? a = some c) (d : String) :
    c.amount d = a.amount d + contribution entries d := by
  induction entries generalizing a with
  | nil =>
    cases h
    rfl
  | cons entry rest ih =>
    obtain ⟨sum, hstep, hrest⟩ := Option.bind_eq_some_iff.1 h
    rw [ih hrest, amount_of_addAmount? hstep, contribution_cons, Nat.add_assoc]

/-- A step that overflows cannot be made good by later ones, so the final sums decide. -/
theorem isSome_foldlM_iff {entries : List (String × Amount)} {a : Resources} :
    (entries.foldlM addAmount? a).isSome ↔
      ∀ d, a.amount d + contribution entries d < UInt64.size := by
  induction entries generalizing a with
  | nil => exact ⟨fun _ d => a.amount_lt d, fun _ => rfl⟩
  | cons entry rest ih =>
    rw [List.foldlM_cons]
    constructor
    · intro h d
      obtain ⟨c, hc⟩ := Option.isSome_iff_exists.1 h
      obtain ⟨sum, hstep, hrest⟩ := Option.bind_eq_some_iff.1 hc
      have hsum := ih.1 (Option.isSome_iff_exists.2 ⟨c, hrest⟩) d
      rw [amount_of_addAmount? hstep] at hsum
      rw [contribution_cons]
      omega
    · intro h
      have hentry := h entry.1
      rw [contribution_cons, if_pos rfl] at hentry
      have hfits : a.amount entry.1 + entry.2.toNat < UInt64.size := by omega
      obtain ⟨sum, hstep⟩ := Option.isSome_iff_exists.1 (isSome_addAmount?_iff.2 hfits)
      rw [hstep]
      refine ih.2 fun d => ?_
      have hd := h d
      rw [contribution_cons] at hd
      rw [amount_of_addAmount? hstep]
      omega

/-- A sum is exact in every dimension. -/
theorem amount_of_add? {a b c : Resources} (h : a.add? b = some c) (d : String) :
    c.amount d = a.amount d + b.amount d := by
  rw [← contribution_toList b]
  exact amount_of_foldlM h d

/-- An addition brings in the dimensions of both, also those with an amount of zero. -/
theorem mem_dimensions_of_foldlM {entries : List (String × Amount)} {a c : Resources}
    (h : entries.foldlM addAmount? a = some c) (d : String) :
    d ∈ c.dimensions ↔ d ∈ a.dimensions ∨ d ∈ entries.map (·.1) := by
  induction entries generalizing a with
  | nil =>
    cases h
    simp
  | cons entry rest ih =>
    obtain ⟨sum, hstep, hrest⟩ := Option.bind_eq_some_iff.1 h
    obtain ⟨total, -, rfl⟩ := Option.map_eq_some_iff.1 hstep
    rw [ih hrest, mem_dimensions_insert, List.map_cons, List.mem_cons]
    tauto

theorem mem_dimensions_of_add? {a b c : Resources} (h : a.add? b = some c) (d : String) :
    d ∈ c.dimensions ↔ d ∈ a.dimensions ∨ d ∈ b.dimensions :=
  mem_dimensions_of_foldlM h d

/-- There is a sum exactly if it is below `2 ^ 64` in every dimension. -/
theorem isSome_add?_iff {a b : Resources} :
    (a.add? b).isSome ↔ ∀ d, a.amount d + b.amount d < UInt64.size := by
  rw [add?_eq_foldlM, isSome_foldlM_iff]
  simp only [contribution_toList]

end ClusterSim.Resources
