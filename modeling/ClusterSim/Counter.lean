/-!
# Counters

Counters of a fixed width that stay at their greatest value once they have reached it, and at zero
when they are counted down.
-/

namespace ClusterSim.Counter

/-- The next value of a counter of 64 bits. -/
def next64 (n : UInt64) : UInt64 := if n.toNat + 1 < UInt64.size then n + 1 else n

/-- The value of a counter of 64 bits when it is counted down. -/
def previous64 (n : UInt64) : UInt64 := if n = 0 then 0 else n - 1

/-- The next value of a counter of 32 bits. -/
def next32 (n : UInt32) : UInt32 := if n.toNat + 1 < UInt32.size then n + 1 else n

theorem toNat_next64 (n : UInt64) : (next64 n).toNat = min (n.toNat + 1) (UInt64.size - 1) := by
  have := n.toNat_lt
  unfold next64 UInt64.size
  split
  · rw [UInt64.toNat_add, UInt64.toNat_one]
    omega
  · omega

theorem toNat_previous64 (n : UInt64) : (previous64 n).toNat = n.toNat - 1 := by
  unfold previous64
  split
  · rename_i hzero
    rw [hzero]
    rfl
  · rename_i hpos
    have hne : n.toNat ≠ 0 := fun heq => hpos (UInt64.toNat_inj.1 heq)
    refine UInt64.toNat_sub_of_le n 1 (UInt64.le_iff_toNat_le.2 ?_)
    exact Nat.one_le_iff_ne_zero.2 hne

theorem toNat_next32 (n : UInt32) : (next32 n).toNat = min (n.toNat + 1) (UInt32.size - 1) := by
  have := n.toNat_lt
  unfold next32 UInt32.size
  split
  · rw [UInt32.toNat_add, UInt32.toNat_one]
    omega
  · omega

end ClusterSim.Counter
