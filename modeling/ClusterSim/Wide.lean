/-!
# Integers of 128 bits

Scores are added up in integers of 128 bits. An operation whose exact value has more bits gives the
greatest of these integers.
-/

namespace ClusterSim.Wide

/-- The greatest integer of 128 bits. -/
def greatest : Nat := UInt64.size * UInt64.size - 1

/-- The sum, or the greatest integer where it would be greater. -/
def add (a b : Nat) : Nat := min greatest (a + b)

/-- The product, or the greatest integer where it would be greater. -/
def mul (a b : Nat) : Nat := min greatest (a * b)

/-- The quotient rounded down; there is none by zero. -/
def div? (a b : Nat) : Option Nat := if b = 0 then none else some (a / b)

/-- The integer, if it has 64 bits. -/
def narrow? (n : Nat) : Option Nat := if n < UInt64.size then some n else none

theorem mul_of_le {a b : Nat} (h : a * b ≤ greatest) : mul a b = a * b := Nat.min_eq_right h

theorem div?_of_pos (a : Nat) {b : Nat} (h : 0 < b) : div? a b = some (a / b) :=
  if_neg (Nat.ne_of_gt h)

theorem getD_narrow? (n : Nat) : (narrow? n).getD (UInt64.size - 1) = min (UInt64.size - 1) n := by
  unfold narrow?
  split
  · rw [Option.getD_some]
    omega
  · rw [Option.getD_none]
    omega

end ClusterSim.Wide
