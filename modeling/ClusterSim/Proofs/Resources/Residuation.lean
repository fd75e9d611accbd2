import ClusterSim.Proofs.Resources

/-!
# What is left covers what is left to demand

Covering, adding and subtracting belong together: after a demand has been taken away, what is left
covers another one exactly if the sum of both exists and was covered, and to take away one after the
other is to take away the sum. Main statement: `covering_residuates_addition`.
-/

namespace ClusterSim

namespace Resources

variable {a b c sum : Resources}

/-! ### Covering is a preorder on amounts -/

theorem covers_refl (a : Resources) : a.covers a := covers_iff.2 fun d => Nat.le_refl (a.amount d)

theorem covers_trans (hab : a.covers b) (hbc : b.covers c) : a.covers c := by
  rw [covers_iff] at *
  intro d
  exact Nat.le_trans (hbc d) (hab d)

/-- Covering knows nothing of a dimension but its amount. -/
theorem covers_congr {other demand : Resources} (hleft : ∀ d, a.get d = other.get d)
    (hright : ∀ d, b.get d = demand.get d) : a.covers b = other.covers demand := by
  rw [Bool.eq_iff_iff, covers_iff, covers_iff]
  unfold amount
  simp only [hleft, hright]

theorem get_insert_zero {d : String} (habsent : d ∉ a.dimensions) (other : String) :
    (a.insert d 0).get other = a.get other := by
  rw [get_insert]
  split
  · rename_i heq
    have hzero : (a.get d).toNat = (0 : UInt64).toNat := amount_of_not_mem_dimensions habsent
    rw [heq, UInt64.toNat_inj.1 hzero]
  · rfl

theorem insert_zero_ne {d : String} (habsent : d ∉ a.dimensions) : a.insert d 0 ≠ a := by
  intro heq
  apply habsent
  rw [← heq, mem_dimensions_insert]
  exact .inl rfl

/-! ### Two demands, one after the other -/

/-- What fits into what is left cannot make the sum overflow: the whole bounds it. -/
theorem covers_sub_iff (h : a.covers b) :
    (a.sub b).covers c ↔ ∃ sum, b.add? c = some sum ∧ a.covers sum := by
  rw [covers_iff] at h
  constructor
  · intro hleft
    rw [covers_iff] at hleft
    have htotal : ∀ d, b.amount d + c.amount d ≤ a.amount d := by
      intro d
      have hb := h d
      have hc := hleft d
      rw [amount_sub] at hc
      omega
    have hsome : (b.add? c).isSome :=
      isSome_add?_iff.2 fun d => Nat.lt_of_le_of_lt (htotal d) (a.amount_lt d)
    obtain ⟨sum, hsum⟩ := Option.isSome_iff_exists.1 hsome
    refine ⟨sum, hsum, covers_iff.2 fun d => ?_⟩
    rw [amount_of_add? hsum]
    exact htotal d
  · rintro ⟨sum, hsum, hcovers⟩
    rw [covers_iff] at hcovers ⊢
    intro d
    have hd := hcovers d
    rw [amount_of_add? hsum] at hd
    rw [amount_sub]
    omega

/-- Differences keep the dimensions of the whole, so equal amounts make them equal. -/
theorem sub_sub_eq (hsum : b.add? c = some sum) : (a.sub b).sub c = a.sub sum := by
  apply ext_amount
  · intro d
    simp only [dimensions_sub]
  · intro d
    simp only [amount_sub, amount_of_add? hsum, Nat.sub_sub]

end Resources

/-- Of resources that cover a demand, what is left covers another demand exactly if the sum of both
exists and is covered. To take away two demands is to take away their sum, where there is one, and
leaves the dimensions as they are. Covering is reflexive and transitive and depends on amounts
alone, so a dimension that is absent may as well be there with an amount of zero, although that is
another value. -/
theorem covering_residuates_addition (a b c : Resources) :
    (a.covers b → ((a.sub b).covers c ↔ ∃ sum, b.add? c = some sum ∧ a.covers sum)) ∧
    (∀ sum, b.add? c = some sum →
      (a.sub b).sub c = a.sub sum ∧ (a.sub sum).dimensions = a.dimensions) ∧
    a.covers a ∧
    (a.covers b → b.covers c → a.covers c) ∧
    (∀ other demand : Resources, (∀ d, a.get d = other.get d) →
      (∀ d, b.get d = demand.get d) → a.covers b = other.covers demand) ∧
    ∀ d, d ∉ a.dimensions → a.insert d 0 ≠ a ∧
      (a.insert d 0).covers b = a.covers b ∧ b.covers (a.insert d 0) = b.covers a := by
  refine ⟨Resources.covers_sub_iff, fun sum hsum => ?_, a.covers_refl, Resources.covers_trans,
    fun _ _ => Resources.covers_congr, fun d habsent => ?_⟩
  · exact ⟨Resources.sub_sub_eq hsum, Resources.dimensions_sub a sum⟩
  · have hzero := Resources.get_insert_zero habsent
    exact ⟨Resources.insert_zero_ne habsent, Resources.covers_congr hzero fun _ => rfl,
      Resources.covers_congr (fun _ => rfl) hzero⟩

/-- A demand leaves one unit of a dimension of the greatest amount. A second demand takes that unit;
a third one asks for two, which its sum with the first shows by overflow. -/
theorem covering_residuates_addition_last_unit :
    let whole : Resources := .ofList [("cpu", 18446744073709551615), ("memory", 8)]
    let first : Resources := .ofList [("cpu", 18446744073709551614), ("gpu", 0)]
    let second : Resources := .ofList [("cpu", 1), ("memory", 8)]
    let third : Resources := .ofList [("cpu", 2)]
    whole.covers first ∧
    (∃ sum, first.add? second = some sum ∧ whole.covers sum ∧
      (whole.sub first).sub second = whole.sub sum) ∧
    first.add? third = none ∧ ¬ (whole.sub first).covers third ∧
    whole.covers third ∧
    (whole.insert "gpu" 0).covers first ∧ whole.insert "gpu" 0 ≠ whole := by
  intro whole first second third
  have hfirst : whole.covers first := by decide +kernel
  have hoverflow : first.add? third = none := by decide +kernel
  have hbetween : first.covers third := by decide +kernel
  have habsent : "gpu" ∉ whole.dimensions := by decide +kernel
  have hleft : (whole.sub first).covers second := by decide +kernel
  obtain ⟨hresidual, hsub, -, -, -, hzero⟩ := covering_residuates_addition whole first second
  obtain ⟨hthird, -, -, htrans, -⟩ := covering_residuates_addition whole first third
  obtain ⟨sum, hsum, hcovers⟩ := (hresidual hfirst).1 hleft
  obtain ⟨hne, hsame, -⟩ := hzero "gpu" habsent
  refine ⟨hfirst, ⟨sum, hsum, hcovers, (hsub sum hsum).1⟩, hoverflow, fun hfits => ?_,
    htrans hfirst hbetween, hsame.trans hfirst, hne⟩
  obtain ⟨total, htotal, -⟩ := (hthird hfirst).1 hfits
  rw [hoverflow] at htotal
  cases htotal

end ClusterSim
