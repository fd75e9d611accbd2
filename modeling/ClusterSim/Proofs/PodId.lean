import ClusterSim.PodId
import ClusterSim.Proofs.Text.Numeral

/-!
# Identities are read back

The written form of an identity is read as that identity (`parse?_text`).
-/

namespace ClusterSim.PodId

theorem hyphenate_cons_cons (size next : Nat) (sizes : List Nat) (cs : List Char) :
    hyphenate (size :: next :: sizes) cs =
      cs.take size ++ '-' :: hyphenate (next :: sizes) (cs.drop size) := rfl

theorem unhyphenate?_append_hyphen {size next : Nat} {sizes : List Nat} {group : List Char}
    (hgroup : group.length = size) (rest : List Char) :
    unhyphenate? (size :: next :: sizes) (group ++ '-' :: rest) =
      (unhyphenate? (next :: sizes) rest).map (group ++ ·) := by
  subst hgroup
  rw [unhyphenate?.eq_def]
  simp only [List.drop_left, List.take_left]

/-- Groups of the right sizes are found again. -/
theorem unhyphenate?_hyphenate {sizes : List Nat} {cs : List Char} (hlength : cs.length = sizes.sum) :
    unhyphenate? sizes (hyphenate sizes cs) = some cs := by
  induction sizes generalizing cs with
  | nil => simp_all [unhyphenate?, hyphenate]
  | cons size rest ih =>
    rw [List.sum_cons] at hlength
    cases rest with
    | nil =>
      have htake : cs.take size = cs := List.take_of_length_le (by simp_all)
      rw [hyphenate, htake, unhyphenate?, if_pos (by simpa using hlength)]
    | cons next rest =>
      have hsize : (cs.take size).length = size := by
        rw [List.length_take]
        omega
      have hdrop : (cs.drop size).length = (next :: rest).sum := by
        rw [List.length_drop]
        omega
      rw [hyphenate_cons_cons, unhyphenate?_append_hyphen hsize, ih hdrop, Option.map_some,
        List.take_append_drop]

/-- There is a hyphen behind every group but the last. -/
theorem length_hyphenate {size : Nat} {sizes : List Nat} {cs : List Char}
    (hlength : cs.length = (size :: sizes).sum) :
    (hyphenate (size :: sizes) cs).length = cs.length + sizes.length := by
  induction sizes generalizing size cs with
  | nil => simp_all [hyphenate]
  | cons next rest ih =>
    rw [List.sum_cons] at hlength
    have hdrop : (cs.drop size).length = (next :: rest).sum := by
      rw [List.length_drop]
      omega
    rw [hyphenate_cons_cons, List.length_append, List.length_cons, ih hdrop, List.length_take,
      List.length_drop, List.length_cons]
    omega

/-- The digits of an identity. -/
def hexDigits (id : PodId) : List Char := Text.zeroPad 32 (Nat.toDigits 16 id.bits.toNat)

theorem length_hexDigits (id : PodId) : id.hexDigits.length = 32 :=
  Text.length_zeroPad_toDigits (by omega) (by omega) id.bits.isLt

theorem ofHex?_hexDigits (id : PodId) : ofHex? id.hexDigits = some id := by
  rw [ofHex?, if_pos id.length_hexDigits, hexDigits, Text.readNat?_zeroPad (by omega) (by omega),
    Option.map_some, BitVec.ofNat_toNat, BitVec.setWidth_eq]

theorem toList_text (id : PodId) : id.text.toList = hyphenate groups id.hexDigits :=
  String.toList_ofList

/-- The written form begins with a digit, so it has neither a brace nor `urn:uuid:` in front. -/
theorem exists_toList_text (id : PodId) :
    ∃ d < 16, ∃ rest, id.text.toList = Nat.digitChar d :: rest := by
  cases hdigits : id.hexDigits with
  | nil => cases hdigits ▸ id.length_hexDigits
  | cons first rest =>
    have hmem : first ∈ id.hexDigits := hdigits ▸ List.mem_cons_self
    obtain ⟨d, hd, rfl⟩ := Text.exists_of_mem_zeroPad (by omega) hmem
    exact ⟨d, hd, _, by rw [toList_text, hdigits]; rfl⟩

theorem parse?_text (id : PodId) : parse? id.text = some id := by
  have hread : (unhyphenate? groups id.text.toList).bind ofHex? = some id := by
    rw [toList_text, unhyphenate?_hyphenate id.length_hexDigits]
    exact id.ofHex?_hexDigits
  have hlength : id.text.toList.length ≠ 32 := by
    rw [toList_text, groups, length_hyphenate id.length_hexDigits, length_hexDigits]
    decide
  have hletters : ∀ d < 16, (Nat.digitChar d).toLower ≠ 'u' ∧ Nat.digitChar d ≠ '\x7b' := by decide
  obtain ⟨d, hd, rest, htext⟩ := id.exists_toList_text
  obtain ⟨hletter, hbrace⟩ := hletters d hd
  unfold parse?
  simp only [htext] at hread hlength ⊢
  rw [if_neg]
  · split
    · rename_i hmatch
      exact absurd (List.cons.inj hmatch).1 hbrace
    · rw [if_neg hlength, hread]
  · intro hurn
    exact hletter (List.cons.inj hurn).1

end ClusterSim.PodId
