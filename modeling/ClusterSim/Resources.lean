import ClusterSim.NameMap
import ClusterSim.Text.Numeral

/-!
# Amounts of resources

A `Resources` value has a non-negative amount below `2 ^ 64` for each of finitely many named
dimensions. A dimension that is absent counts as zero wherever amounts are compared, but an
explicit zero is kept: the two values differ.
-/

namespace ClusterSim

/-- An amount of one dimension: millicores of `cpu`, base units of everything else. -/
abbrev Amount := UInt64

/-- The dimension counted in millicores. -/
def Dimension.cpu : String := "cpu"

/-- The dimension counted in bytes. -/
def Dimension.memory : String := "memory"

/-- The sum, if it is below `2 ^ 64`. -/
def Amount.add? (a b : Amount) : Option Amount :=
  if a.toNat + b.toNat < UInt64.size then some (a + b) else none

/-- The difference, or zero where it would be negative. -/
def Amount.truncatedSub (a b : Amount) : Amount :=
  if b ≤ a then a - b else 0

theorem Amount.toNat_of_add? {a b c : Amount} (h : Amount.add? a b = some c) :
    c.toNat = a.toNat + b.toNat := by
  unfold Amount.add? at h
  split at h
  · rename_i hlt
    cases h
    rw [UInt64.toNat_add, Nat.mod_eq_of_lt hlt]
  · cases h

theorem Amount.toNat_truncatedSub (a b : Amount) :
    (Amount.truncatedSub a b).toNat = a.toNat - b.toNat := by
  unfold Amount.truncatedSub
  split
  · rename_i hle
    exact UInt64.toNat_sub_of_le _ _ hle
  · rename_i hle
    have : a.toNat < b.toNat := UInt64.lt_iff_toNat_lt.1 (UInt64.not_le.1 hle)
    simp only [UInt64.toNat_zero]
    omega

/-- An amount for each of finitely many dimensions. -/
structure Resources where
  amounts : NameMap Amount
deriving DecidableEq, Inhabited

namespace Resources

/-- No dimension at all. -/
def empty : Resources := ⟨.empty⟩

/-- Reads amounts from left to right; a later amount of a dimension replaces an earlier one. -/
def ofList (amounts : List (String × Amount)) : Resources := ⟨.ofList amounts⟩

/-- Dimensions and amounts in order of dimension. -/
def toList (r : Resources) : List (String × Amount) := r.amounts.entries

/-- Sets the amount of a dimension. -/
def insert (r : Resources) (dimension : String) (amount : Amount) : Resources :=
  ⟨r.amounts.insert dimension amount⟩

/-- The amount of a dimension, zero if it is absent. -/
def get (r : Resources) (dimension : String) : Amount :=
  (r.amounts.get? dimension).getD 0

/-- Whether no dimension is present. -/
def isEmpty (r : Resources) : Bool := r.amounts.isEmpty

/-- Whether every amount of `demand` is available in `r`. -/
def covers (r demand : Resources) : Bool :=
  demand.toList.all fun entry => entry.2 ≤ r.get entry.1

/-- The sum by dimension, with the dimensions of both; `none` if an amount reaches `2 ^ 64`. -/
def add? (a b : Resources) : Option Resources :=
  b.toList.foldlM
    (fun sum entry => (Amount.add? (sum.get entry.1) entry.2).map (sum.insert entry.1)) a

/-- The difference by dimension, clamped at zero, with the dimensions of the first. -/
def sub (a b : Resources) : Resources :=
  ⟨a.amounts.mapWithName fun dimension amount => Amount.truncatedSub amount (b.get dimension)⟩

/-- The text of the amounts, such as `{cpu: 2000, memory: 1024}`. -/
def text (r : Resources) : String :=
  "\x7b" ++ String.intercalate ", "
    (r.toList.map fun entry => entry.1 ++ ": " ++ Text.decimal entry.2.toNat) ++ "\x7d"

end Resources

end ClusterSim
