import ClusterSim.NameMap
import Mathlib.Data.List.Sort

/-!
# Finite maps from names: reading

What is read under a name after each operation, and the list of entries as the graph of the map, so
that a map is known from what is read. An entry that is replaced keeps its place.
-/

namespace ClusterSim.NameMap

universe u v

variable {α : Type u} {β : Type v}

/-! ### Insertion -/

theorem lookup_insertEntry_self (name : String) (value : α) (entries : List (String × α)) :
    (insertEntry name value entries).lookup name = some value := by
  induction entries with
  | nil => simp [insertEntry]
  | cons head rest ih =>
    unfold insertEntry
    split
    · simp
    · split
      · simp
      · rename_i hne
        rw [List.lookup_cons, beq_false_of_ne hne]
        exact ih

theorem lookup_insertEntry_of_ne {name other : String} (h : other ≠ name) (value : α)
    (entries : List (String × α)) :
    (insertEntry name value entries).lookup other = entries.lookup other := by
  induction entries with
  | nil => rw [insertEntry, List.lookup_cons, beq_false_of_ne h]
  | cons head rest ih =>
    unfold insertEntry
    split
    · rw [List.lookup_cons, beq_false_of_ne h]
    · split
      · rename_i heq
        rw [List.lookup_cons, List.lookup_cons, beq_false_of_ne h, beq_false_of_ne (heq ▸ h)]
      · rw [List.lookup_cons, List.lookup_cons, ih]

/-- The value set last is read under its name, and all else as before. -/
theorem get?_insert (map : NameMap α) (name other : String) (value : α) :
    (map.insert name value).get? other = if other = name then some value else map.get? other := by
  by_cases h : other = name
  · rw [if_pos h, h]
    exact lookup_insertEntry_self name value map.entries
  · rw [if_neg h]
    exact lookup_insertEntry_of_ne h value map.entries

/-! ### Entries -/

theorem ne_of_mem_before {before after : List (String × α)} {name : String} {value : α}
    (h : (before ++ (name, value) :: after).Pairwise (fun a b => a.1 < b.1))
    {entry : String × α} (hmem : entry ∈ before) : entry.1 < name ∧ name ≠ entry.1 := by
  have hlt : entry.1 < name :=
    (List.pairwise_append.1 h).2.2 entry hmem (name, value) List.mem_cons_self
  exact ⟨hlt, fun heq => String.lt_irrefl _ (heq ▸ hlt)⟩

/-- Ascending names are different, so an entry is the only one of its name. -/
theorem get?_of_mem_entries {map : NameMap α} {name : String} {value : α}
    (h : (name, value) ∈ map.entries) : map.get? name = some value := by
  obtain ⟨before, after, hsplit⟩ := List.append_of_mem h
  refine List.lookup_eq_some_iff.2 ⟨before, after, hsplit, fun entry hmem => ?_⟩
  exact bne_iff_ne.2 (ne_of_mem_before (hsplit ▸ map.ascending) hmem).2

theorem mem_entries_of_get? {map : NameMap α} {name : String} {value : α}
    (h : map.get? name = some value) : (name, value) ∈ map.entries := by
  obtain ⟨before, after, hsplit, -⟩ := List.lookup_eq_some_iff.1 h
  rw [hsplit]
  exact List.mem_append_right _ List.mem_cons_self

theorem mem_values_iff {map : NameMap α} {value : α} :
    value ∈ map.values ↔ ∃ name, map.get? name = some value := by
  constructor
  · intro h
    obtain ⟨⟨name, value⟩, hmem, rfl⟩ := List.mem_map.1 h
    exact ⟨name, get?_of_mem_entries hmem⟩
  · rintro ⟨name, h⟩
    exact List.mem_map.2 ⟨(name, value), mem_entries_of_get? h, rfl⟩

theorem get?_eq_some_iff {map : NameMap α} {name : String} {value : α} :
    map.get? name = some value ↔ (name, value) ∈ map.entries :=
  ⟨mem_entries_of_get?, get?_of_mem_entries⟩

theorem mem_names_iff {map : NameMap α} {name : String} :
    name ∈ map.names ↔ ∃ value, map.get? name = some value := by
  constructor
  · intro h
    obtain ⟨⟨_, value⟩, hmem, rfl⟩ := List.mem_map.1 h
    exact ⟨value, get?_of_mem_entries hmem⟩
  · rintro ⟨value, h⟩
    exact List.mem_map.2 ⟨(name, value), mem_entries_of_get? h, rfl⟩

/-- What is read under all names makes up the map. -/
theorem ext_get? {a b : NameMap α} (h : ∀ name, a.get? name = b.get? name) : a = b := by
  have hmem : ∀ entry, entry ∈ a.entries ↔ entry ∈ b.entries := by
    rintro ⟨name, value⟩
    rw [← get?_eq_some_iff, ← get?_eq_some_iff, h name]
  have : Std.Irrefl fun first second : String × α => first.1 < second.1 :=
    ⟨fun entry => String.lt_irrefl entry.1⟩
  have : Std.Antisymm fun first second : String × α => first.1 < second.1 :=
    ⟨fun _ _ hlt hgt => absurd hgt (String.lt_asymm hlt)⟩
  exact ext_entries (a.ascending.eq_of_mem_iff b.ascending hmem)

/-- In ascending entries the one of a name is replaced where it stands. -/
theorem insertEntry_of_split {before after : List (String × α)} {name : String} {old : α}
    (value : α) (h : (before ++ (name, old) :: after).Pairwise (fun a b => a.1 < b.1)) :
    insertEntry name value (before ++ (name, old) :: after) = before ++ (name, value) :: after := by
  induction before with
  | nil =>
    rw [List.nil_append, insertEntry, if_neg (String.lt_irrefl name), if_pos rfl]
    rfl
  | cons head rest ih =>
    obtain ⟨hlt, hne⟩ := ne_of_mem_before h List.mem_cons_self
    rw [List.cons_append, insertEntry, if_neg (String.lt_asymm hlt), if_neg hne]
    rw [ih (List.pairwise_cons.1 h).2]
    rfl

/-- The entries around the one of a name, which stay when its value is replaced. -/
theorem exists_split_of_get? {map : NameMap α} {name : String} {old : α}
    (h : map.get? name = some old) :
    ∃ before after, map.entries = before ++ (name, old) :: after ∧
      ∀ value, (map.insert name value).entries = before ++ (name, value) :: after := by
  obtain ⟨before, after, hsplit, -⟩ := List.lookup_eq_some_iff.1 h
  refine ⟨before, after, hsplit, fun value => ?_⟩
  show insertEntry name value map.entries = _
  rw [hsplit]
  exact insertEntry_of_split value (hsplit ▸ map.ascending)

theorem names_insert_of_get? {map : NameMap α} {name : String} {old : α}
    (h : map.get? name = some old) (value : α) : (map.insert name value).names = map.names := by
  obtain ⟨before, after, hold, hnew⟩ := exists_split_of_get? h
  rw [names, names, hnew, hold]
  simp

/-! ### Reading from lists -/

theorem mem_entries_foldl_insert {entries : List (String × α)} {map : NameMap α}
    {entry : String × α}
    (h : entry ∈ (entries.foldl (fun map entry => map.insert entry.1 entry.2) map).entries) :
    entry ∈ map.entries ∨ entry ∈ entries := by
  induction entries generalizing map with
  | nil => exact .inl h
  | cons head rest ih =>
    rcases ih h with hmem | hmem
    · rcases mem_insertEntry hmem with heq | hmem
      · exact .inr (heq ▸ List.mem_cons_self)
      · exact .inl hmem
    · exact .inr (List.mem_cons_of_mem _ hmem)

theorem mem_entries_ofList {entries : List (String × α)} {entry : String × α}
    (h : entry ∈ (ofList entries).entries) : entry ∈ entries :=
  (mem_entries_foldl_insert h).resolve_left List.not_mem_nil

/-- A name that is greater than all others goes to the end. -/
theorem insertEntry_of_greater {name : String} (value : α) {entries : List (String × α)}
    (h : ∀ entry ∈ entries, entry.1 < name) :
    insertEntry name value entries = entries ++ [(name, value)] := by
  induction entries with
  | nil => rfl
  | cons head rest ih =>
    have hlt : head.1 < name := h head List.mem_cons_self
    have hne : name ≠ head.1 := fun heq => String.lt_irrefl _ (heq ▸ hlt)
    rw [insertEntry, if_neg (String.lt_asymm hlt), if_neg hne,
      ih fun entry hmem => h entry (List.mem_cons_of_mem _ hmem)]
    rfl

/-- A name that is not among the entries keeps what is read under it. -/
theorem get?_foldl_insert_of_not_mem {entries : List (String × α)} {map : NameMap α} {name : String}
    (h : name ∉ entries.map (·.1)) :
    (entries.foldl (fun map entry => map.insert entry.1 entry.2) map).get? name =
      map.get? name := by
  induction entries generalizing map with
  | nil => rfl
  | cons head rest ih =>
    rw [List.map_cons, List.mem_cons, not_or] at h
    rw [List.foldl_cons, ih h.2, get?_insert, if_neg h.1]

/-- Of entries with different names none is replaced. -/
theorem get?_foldl_insert_of_mem {entries : List (String × α)} {map : NameMap α} {name : String}
    {value : α} (hnodup : (entries.map (·.1)).Nodup) (h : (name, value) ∈ entries) :
    (entries.foldl (fun map entry => map.insert entry.1 entry.2) map).get? name = some value := by
  induction entries generalizing map with
  | nil => cases h
  | cons head rest ih =>
    obtain ⟨hhead, hrest⟩ := List.nodup_cons.1 (List.map_cons ▸ hnodup)
    rw [List.foldl_cons]
    rcases List.mem_cons.1 h with rfl | hmem
    · rw [get?_foldl_insert_of_not_mem hhead, get?_insert, if_pos rfl]
    · exact ih hrest hmem

theorem get?_ofList_of_mem {entries : List (String × α)} {name : String} {value : α}
    (hnodup : (entries.map (·.1)).Nodup) (h : (name, value) ∈ entries) :
    (ofList entries).get? name = some value :=
  get?_foldl_insert_of_mem hnodup h

theorem nodup_names (map : NameMap α) : map.names.Nodup := by
  refine List.pairwise_map.2 (map.ascending.imp fun hlt heq => ?_)
  exact String.lt_irrefl _ (heq ▸ hlt)

/-- Different names stay as they are, in ascending order. -/
theorem names_ofList_perm {entries : List (String × α)} (hnodup : (entries.map (·.1)).Nodup) :
    (ofList entries).names.Perm (entries.map (·.1)) := by
  refine (List.perm_ext_iff_of_nodup (nodup_names _) hnodup).2 fun name => ?_
  constructor
  · intro h
    obtain ⟨value, hget⟩ := mem_names_iff.1 h
    exact List.mem_map.2 ⟨_, mem_entries_ofList (mem_entries_of_get? hget), rfl⟩
  · intro h
    obtain ⟨⟨_, value⟩, hmem, rfl⟩ := List.mem_map.1 h
    exact mem_names_iff.2 ⟨value, get?_ofList_of_mem hnodup hmem⟩

theorem entries_foldl_insert {entries : List (String × α)} {map : NameMap α}
    (h : (map.entries ++ entries).Pairwise (fun a b => a.1 < b.1)) :
    (entries.foldl (fun map entry => map.insert entry.1 entry.2) map).entries =
      map.entries ++ entries := by
  induction entries generalizing map with
  | nil => exact (List.append_nil _).symm
  | cons head rest ih =>
    have hgreater : ∀ entry ∈ map.entries, entry.1 < head.1 := fun entry hmem =>
      (List.pairwise_append.1 h).2.2 entry hmem head List.mem_cons_self
    have hentries : (map.insert head.1 head.2).entries = map.entries ++ [head] :=
      insertEntry_of_greater head.2 hgreater
    rw [List.append_cons, ← hentries] at h
    rw [List.append_cons, ← hentries]
    exact ih h

theorem entries_ofList {entries : List (String × α)}
    (h : entries.Pairwise (fun a b => a.1 < b.1)) : (ofList entries).entries = entries :=
  entries_foldl_insert h

/-- A map is read back from its entries. -/
theorem ofList_entries (map : NameMap α) : ofList map.entries = map :=
  ext_entries (entries_ofList map.ascending)

/-! ### Mapping -/

theorem get?_mapWithName (f : String → α → β) (map : NameMap α) (name : String) :
    (map.mapWithName f).get? name = (map.get? name).map (f name) := by
  show (map.entries.map fun entry => (entry.1, f entry.1 entry.2)).lookup name =
    (map.entries.lookup name).map (f name)
  induction map.entries with
  | nil => rfl
  | cons head rest ih =>
    rw [List.map_cons, List.lookup_cons, List.lookup_cons, ih]
    by_cases h : name = head.1
    · simp [h]
    · rw [beq_false_of_ne h]

@[simp] theorem names_mapWithName (f : String → α → β) (map : NameMap α) :
    (map.mapWithName f).names = map.names := by
  simp [names, mapWithName]

end ClusterSim.NameMap
