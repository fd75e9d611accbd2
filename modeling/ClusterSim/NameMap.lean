/-!
# Finite maps from names

A `NameMap α` keeps its entries in strictly ascending order of name, by code point, so a map has
one representation: equal maps are equal as values, and iteration is in order of name.
-/

namespace ClusterSim

universe u v

/-- A finite map from names to values. -/
structure NameMap (α : Type u) where
  entries : List (String × α)
  ascending : entries.Pairwise (fun a b => a.1 < b.1)
deriving DecidableEq

namespace NameMap

variable {α : Type u} {β : Type v}

/-- Insertion into an ascending list of entries; an entry of the same name is replaced. -/
def insertEntry (name : String) (value : α) : List (String × α) → List (String × α)
  | [] => [(name, value)]
  | entry :: rest =>
    if name < entry.1 then (name, value) :: entry :: rest
    else if name = entry.1 then (name, value) :: rest
    else entry :: insertEntry name value rest

theorem mem_insertEntry {name : String} {value : α} {entry : String × α}
    {entries : List (String × α)} (h : entry ∈ insertEntry name value entries) :
    entry = (name, value) ∨ entry ∈ entries := by
  induction entries with
  | nil => simpa [insertEntry] using h
  | cons head rest ih =>
    unfold insertEntry at h
    split at h
    · simpa using h
    · split at h
      · rcases List.mem_cons.1 h with h | h
        · exact .inl h
        · exact .inr (List.mem_cons_of_mem _ h)
      · rcases List.mem_cons.1 h with h | h
        · exact .inr (h ▸ List.mem_cons_self)
        · exact (ih h).imp_right (List.mem_cons_of_mem _)

theorem insertEntry_ascending (name : String) (value : α) {entries : List (String × α)}
    (h : entries.Pairwise (fun a b => a.1 < b.1)) :
    (insertEntry name value entries).Pairwise (fun a b => a.1 < b.1) := by
  induction entries with
  | nil => simp [insertEntry]
  | cons head rest ih =>
    obtain ⟨hhead, hrest⟩ := List.pairwise_cons.1 h
    unfold insertEntry
    split
    · rename_i hlt
      refine List.pairwise_cons.2 ⟨fun entry hmem => ?_, h⟩
      rcases List.mem_cons.1 hmem with rfl | hmem
      · exact hlt
      · exact String.lt_trans hlt (hhead entry hmem)
    · split
      · rename_i _ heq
        exact List.pairwise_cons.2 ⟨fun entry hmem => heq ▸ hhead entry hmem, hrest⟩
      · rename_i hlt hne
        refine List.pairwise_cons.2 ⟨fun entry hmem => ?_, ih hrest⟩
        rcases mem_insertEntry hmem with rfl | hmem
        · rcases Classical.em (head.1 < name) with hgt | hgt
          · exact hgt
          · exact absurd (String.le_antisymm (String.not_lt.1 hgt) (String.not_lt.1 hlt)) hne
        · exact hhead entry hmem

/-- The map without entries. -/
def empty : NameMap α := ⟨[], .nil⟩

instance : Inhabited (NameMap α) := ⟨empty⟩

/-- Sets the value of a name, replacing any earlier one. -/
def insert (map : NameMap α) (name : String) (value : α) : NameMap α :=
  ⟨insertEntry name value map.entries, insertEntry_ascending name value map.ascending⟩

/-- The value of a name. -/
def get? (map : NameMap α) (name : String) : Option α :=
  map.entries.lookup name

/-- Reads entries from left to right; a later entry of a name replaces an earlier one. -/
def ofList (entries : List (String × α)) : NameMap α :=
  entries.foldl (fun map entry => map.insert entry.1 entry.2) empty

/-- The names, ascending. -/
def names (map : NameMap α) : List String := map.entries.map (·.1)

/-- The values in order of their names. -/
def values (map : NameMap α) : List α := map.entries.map (·.2)

/-- The number of names. -/
def size (map : NameMap α) : Nat := map.entries.length

/-- Whether no name has a value. -/
def isEmpty (map : NameMap α) : Bool := map.entries.isEmpty

/-- Replaces each value by a function of its name and itself. -/
def mapWithName (f : String → α → β) (map : NameMap α) : NameMap β where
  entries := map.entries.map fun entry => (entry.1, f entry.1 entry.2)
  ascending := List.pairwise_map.2 map.ascending

theorem ext_entries {a b : NameMap α} (h : a.entries = b.entries) : a = b := by
  cases a; cases b; congr

end NameMap

end ClusterSim
