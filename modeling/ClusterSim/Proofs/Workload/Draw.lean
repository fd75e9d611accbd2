import ClusterSim.Workload.Draw

/-!
# Draws stay in their ranges

Of a generator it is asked that a draw from a range that is not empty gives a value of the range
(`LawfulGenerator`), and a stream of words does so whatever words come. From which ranges is drawn
can be seen from a generator that records them.
-/

namespace ClusterSim

/-- Draws from ranges that are not empty stay in them. Of empty ranges nothing is known. -/
class LawfulGenerator (γ : Type) [Generator γ] : Prop where
  le_between : ∀ {least greatest : UInt64} (generator : γ), least ≤ greatest →
    least ≤ (Generator.between least greatest generator).1
  between_le : ∀ {least greatest : UInt64} (generator : γ), least ≤ greatest →
    (Generator.between least greatest generator).1 ≤ greatest
  index_lt : ∀ {length : Nat} (generator : γ), 0 < length →
    (Generator.index length generator).1 < length

/-! ### Draws from a stream of words -/

/-- The outcome of a draw is below the size, also where the second word makes it the next number:
then the low half of the first one was too large for the last number. -/
theorem drawBelow_lt {width size : Nat} (next : WordStream → Nat × WordStream)
    (hnext : ∀ stream, (next stream).1 < Nat.pow 2 width) (hsize : 0 < size)
    (stream : WordStream) : (drawBelow width next size stream).1 < size := by
  have hfirst := hnext stream
  unfold drawBelow
  simp only
  generalize Nat.pow 2 width = limit at *
  generalize (next stream).1 = first at *
  have hbelow : first * size / limit < size :=
    Nat.div_lt_of_lt_mul (Nat.mul_lt_mul_of_pos_right hfirst hsize)
  split
  · rename_i hlow
    simp only
    split
    · rcases Nat.lt_or_ge (first * size / limit + 1) size with hlt | hlast
      · exact hlt
      · have hhalves := Nat.div_add_mod (first * size) limit
        have hmost : (first + 1) * size ≤ limit * size := Nat.mul_le_mul_right size hfirst
        have hnumber : first * size / limit = size - 1 := by omega
        have hsplit : limit * size = limit * (size - 1) + limit := by
          rw [← Nat.mul_succ, Nat.succ_eq_add_one, Nat.sub_add_cancel hsize]
        rw [Nat.add_mul, Nat.one_mul] at hmost
        rw [hnumber] at hhalves
        omega
    · exact hbelow
  · exact hbelow

/-- The size of a range of words, which is zero if the range is that of all words. -/
theorem toNat_size {least greatest : UInt64} (h : least ≤ greatest)
    (hsize : greatest - least + 1 ≠ 0) :
    (greatest - least + 1).toNat = greatest.toNat - least.toNat + 1 := by
  have hdifference := UInt64.toNat_sub_of_le greatest least h
  have hlt := (greatest - least).toNat_lt
  have hne : (greatest - least + 1).toNat ≠ 0 := fun hzero => hsize (UInt64.toNat_inj.1 hzero)
  rw [UInt64.toNat_add, UInt64.toNat_one] at hne ⊢
  omega

theorem toNat_drawBetween {least greatest : UInt64} (h : least ≤ greatest) (stream : WordStream) :
    least.toNat ≤ (drawBetween least greatest stream).1.toNat ∧
      (drawBetween least greatest stream).1.toNat ≤ greatest.toNat := by
  have hle := UInt64.le_iff_toNat_le.1 h
  have hgreatest := greatest.toNat_lt
  unfold drawBetween
  simp only
  split
  · -- only the range of all words has as many values as there are words
    rename_i hall
    have hdifference := UInt64.toNat_sub_of_le greatest least h
    have hzero : (greatest - least + 1).toNat = 0 := by rw [hall]; rfl
    have hword := (stream.next64.1).toNat_lt
    rw [UInt64.toNat_add, UInt64.toNat_one] at hzero
    omega
  · rename_i hsome
    have hsize := toNat_size h hsome
    have hoffset := drawBelow_lt
      (fun stream => (stream.next64.1.toNat, stream.next64.2))
      (fun stream => stream.next64.1.toNat_lt) (by omega : 0 < (greatest - least + 1).toNat) stream
    simp only at hoffset ⊢
    rw [UInt64.toNat_add, UInt64.toNat_ofNat']
    omega

instance : LawfulGenerator WordStream where
  le_between generator h := UInt64.le_iff_toNat_le.2 (toNat_drawBetween h generator).1
  between_le generator h := UInt64.le_iff_toNat_le.2 (toNat_drawBetween h generator).2
  index_lt generator h := drawBelow_lt _ (fun stream => stream.next32.1.toNat_lt) h generator

/-! ### Recorded ranges -/

/-- A range to draw from. -/
inductive DrawRange where
  /-- Numbers between two bounds, both included. -/
  | between (least greatest : UInt64)
  /-- Positions in a sequence of the given length. -/
  | index (length : Nat)

/-- There is a value to draw. -/
def DrawRange.NonEmpty : DrawRange → Prop
  | .between least greatest => least ≤ greatest
  | .index length => 0 < length

/-- A generator, and the ranges that have been drawn from. -/
structure Recorded (γ : Type) where
  generator : γ
  ranges : List DrawRange

namespace Recorded

variable {γ : Type} [Generator γ]

/-- The generator before the first draw. -/
def start (generator : γ) : Recorded γ := ⟨generator, []⟩

instance : Generator (Recorded γ) where
  between least greatest recorded :=
    let (value, generator) := Generator.between least greatest recorded.generator
    (value, ⟨generator, recorded.ranges ++ [.between least greatest]⟩)
  index length recorded :=
    let (value, generator) := Generator.index length recorded.generator
    (value, ⟨generator, recorded.ranges ++ [.index length]⟩)

end Recorded

end ClusterSim
