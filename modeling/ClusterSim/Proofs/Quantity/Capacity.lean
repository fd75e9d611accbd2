import ClusterSim.Proofs.Quantity.Value
import ClusterSim.Proofs.Resources
import Mathlib.Data.List.Forall2

/-!
# Written amounts of several dimensions

The quantities of a map are read in order of dimension. Either all of them are quantities, and the
amounts are theirs, or the error is that of the smallest dimension whose quantity is refused
(`Resources.parse_cases`).
-/

namespace ClusterSim

/-! ### Reading one after the other -/

section Reading

variable {α β ε : Type}

/-- A list is read in full, or up to the first member that is refused. -/
theorem mapM_cases (read : α → Except ε β) (xs : List α) :
    (∃ ys, xs.mapM read = .ok ys ∧ List.Forall₂ (fun x y => read x = .ok y) xs ys) ∨
    ∃ before x after error, xs = before ++ x :: after ∧
      (∀ other ∈ before, ∃ y, read other = .ok y) ∧ read x = .error error ∧
      xs.mapM read = .error error := by
  induction xs with
  | nil => exact .inl ⟨[], rfl, .nil⟩
  | cons head rest ih =>
    rw [List.mapM_cons]
    cases hhead : read head with
    | error error => exact .inr ⟨[], head, rest, error, rfl, by simp, hhead, rfl⟩
    | ok value =>
      rcases ih with ⟨ys, hrest, hall⟩ | ⟨before, x, after, error, rfl, hbefore, hx, hrest⟩
      · refine .inl ⟨value :: ys, ?_, .cons hhead hall⟩
        rw [hrest]
        rfl
      · refine .inr ⟨head :: before, x, after, error, rfl, fun other hmem => ?_, hx, ?_⟩
        · rcases List.mem_cons.1 hmem with rfl | hmem
          · exact ⟨value, hhead⟩
          · exact hbefore other hmem
        · rw [hrest]
          rfl

theorem exists_of_forall₂ {R : α → β → Prop} {xs : List α} {ys : List β}
    (h : List.Forall₂ R xs ys) {x : α} (hmem : x ∈ xs) : ∃ y ∈ ys, R x y := by
  induction h with
  | nil => cases hmem
  | cons hhead _ ih =>
    rcases List.mem_cons.1 hmem with rfl | hmem
    · exact ⟨_, List.mem_cons_self, hhead⟩
    · obtain ⟨y, hy, hrel⟩ := ih hmem
      exact ⟨y, List.mem_cons_of_mem _ hy, hrel⟩

/-- What is seen alike on both sides of each pair is seen alike on the lists. -/
theorem map_eq_map_of_forall₂ {γ : Type} {R : α → β → Prop} {f : α → γ} {g : β → γ}
    (hsame : ∀ x y, R x y → f x = g y) {xs : List α} {ys : List β} (h : List.Forall₂ R xs ys) :
    xs.map f = ys.map g := by
  induction h with
  | nil => rfl
  | cons hhead _ ih => rw [List.map_cons, List.map_cons, hsame _ _ hhead, ih]

end Reading

namespace Resources

/-- Every dimension has a quantity that can be read. -/
def AllReadable (quantities : NameMap String) : Prop :=
  ∀ d raw, quantities.get? d = some raw → ∃ amount, Quantity.parse d raw = .ok amount

/-- The error is that of the smallest dimension whose quantity is refused. -/
structure FirstRefused (quantities : NameMap String) (error : QuantityError) : Prop where
  get?_eq : quantities.get? error.dimension = some error.raw
  parse_eq : Quantity.parse error.dimension error.raw = .error error
  readable_before : ∀ d raw, d < error.dimension → quantities.get? d = some raw →
    ∃ amount, Quantity.parse d raw = .ok amount

/-- Exactly the dimensions of the quantities are there, with the amounts that are written. -/
structure ReadFrom (r : Resources) (quantities : NameMap String) : Prop where
  dimensions_eq : r.dimensions = quantities.names
  get?_eq : ∀ d raw, quantities.get? d = some raw →
    ∃ amount, Quantity.parse d raw = .ok amount ∧ r.amounts.get? d = some amount

theorem ReadFrom.allReadable {r : Resources} {quantities : NameMap String}
    (h : r.ReadFrom quantities) : AllReadable quantities := by
  intro d raw hget
  obtain ⟨amount, hparse, -⟩ := h.get?_eq d raw hget
  exact ⟨amount, hparse⟩

theorem FirstRefused.not_allReadable {quantities : NameMap String} {error : QuantityError}
    (h : FirstRefused quantities error) : ¬ AllReadable quantities := by
  intro hall
  obtain ⟨amount, hparse⟩ := hall _ _ h.get?_eq
  cases h.parse_eq.symm.trans hparse

/-- Reads the quantity of a dimension. -/
def readEntry (entry : String × String) : Except QuantityError (String × Amount) := do
  let amount ← Quantity.parse entry.1 entry.2
  return (entry.1, amount)

theorem parse_of_readEntry {quantities : NameMap String} {pairs : List (String × Amount)}
    (h : quantities.entries.mapM readEntry = .ok pairs) :
    Resources.parse quantities = .ok (ofList pairs) := by
  show (do let amounts ← quantities.entries.mapM readEntry; return ofList amounts) = _
  rw [h]
  rfl

theorem parse_of_readEntry_error {quantities : NameMap String} {error : QuantityError}
    (h : quantities.entries.mapM readEntry = .error error) :
    Resources.parse quantities = .error error := by
  show (do let amounts ← quantities.entries.mapM readEntry; return ofList amounts) = _
  rw [h]
  rfl

theorem of_readEntry_eq_ok {entry : String × String} {pair : String × Amount}
    (h : readEntry entry = .ok pair) :
    entry.1 = pair.1 ∧ Quantity.parse entry.1 entry.2 = .ok pair.2 := by
  unfold readEntry at h
  cases hparse : Quantity.parse entry.1 entry.2 with
  | ok amount =>
    rw [hparse] at h
    cases h
    exact ⟨rfl, rfl⟩
  | error error =>
    rw [hparse] at h
    cases h

theorem of_readEntry_eq_error {entry : String × String} {error : QuantityError}
    (h : readEntry entry = .error error) : Quantity.parse entry.1 entry.2 = .error error := by
  unfold readEntry at h
  cases hparse : Quantity.parse entry.1 entry.2 with
  | ok amount =>
    rw [hparse] at h
    cases h
  | error fault =>
    rw [hparse] at h
    cases h
    rfl

/-- The pairs that are read keep the order of the dimensions, so the list stays as it is. -/
theorem readFrom_ofList {quantities : NameMap String} {pairs : List (String × Amount)}
    (h : List.Forall₂ (fun entry pair => readEntry entry = .ok pair) quantities.entries pairs) :
    (ofList pairs).ReadFrom quantities := by
  have hnames : quantities.names = pairs.map (·.1) := by
    unfold NameMap.names
    apply map_eq_map_of_forall₂ _ h
    intro entry pair hread
    exact (of_readEntry_eq_ok hread).1
  have hascending : (pairs.map (·.1)).Pairwise (· < ·) := by
    rw [← hnames]
    exact List.pairwise_map.2 quantities.ascending
  have hentries : (ofList pairs).amounts.entries = pairs :=
    NameMap.entries_ofList (List.pairwise_map.1 hascending)
  refine ⟨?_, fun d raw hget => ?_⟩
  · rw [dimensions, NameMap.names, hentries, hnames]
  · obtain ⟨pair, hmem, hread⟩ := exists_of_forall₂ h (NameMap.mem_entries_of_get? hget)
    obtain ⟨rfl, hparse⟩ := of_readEntry_eq_ok hread
    refine ⟨pair.2, hparse, NameMap.get?_of_mem_entries ?_⟩
    rw [hentries]
    exact hmem

/-- The quantities are read in full, or the first that is refused gives the error. -/
theorem parse_cases (quantities : NameMap String) :
    (∃ r, Resources.parse quantities = .ok r ∧ r.ReadFrom quantities) ∨
    ∃ error, Resources.parse quantities = .error error ∧ FirstRefused quantities error := by
  rcases mapM_cases readEntry quantities.entries with
    ⟨pairs, hpairs, hall⟩ | ⟨before, entry, after, error, hsplit, hbefore, hentry, herror⟩
  · exact .inl ⟨ofList pairs, parse_of_readEntry hpairs, readFrom_ofList hall⟩
  · refine .inr ⟨error, parse_of_readEntry_error herror, ?_⟩
    have hparse := of_readEntry_eq_error hentry
    obtain ⟨hdimension, hraw⟩ := Quantity.of_parse_eq_error hparse
    have hascending := hsplit ▸ quantities.ascending
    refine ⟨?_, ?_, fun d raw hlt hget => ?_⟩
    · rw [hdimension, hraw]
      apply NameMap.get?_of_mem_entries
      rw [hsplit]
      exact List.mem_append_right _ List.mem_cons_self
    · rw [hdimension, hraw, hparse]
    · -- smaller dimensions stand before the one that is refused
      have hmem : (d, raw) ∈ before := by
        have hentries := NameMap.mem_entries_of_get? hget
        rw [hsplit] at hentries
        rcases List.mem_append.1 hentries with hmem | hmem
        · exact hmem
        · exfalso
          rw [hdimension] at hlt
          rcases List.mem_cons.1 hmem with heq | hlater
          · exact String.lt_irrefl _ (heq ▸ hlt)
          · have hafter := (List.pairwise_append.1 hascending).2.1
            exact String.lt_asymm hlt ((List.pairwise_cons.1 hafter).1 _ hlater)
      obtain ⟨pair, hread⟩ := hbefore _ hmem
      exact ⟨pair.2, (of_readEntry_eq_ok hread).2⟩

end Resources

end ClusterSim
