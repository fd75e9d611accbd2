import ClusterSim.Text.Numeral

/-!
# Identities of pods

An identity is a number of 128 bits, written as 32 hexadecimal digits in five groups with hyphens
between them. It is read in that form, without the hyphens, in braces, and after `urn:uuid:` in
letters of either case.
-/

namespace ClusterSim

/-- The identity of a pod. -/
structure PodId where
  bits : BitVec 128
deriving DecidableEq, Inhabited

namespace PodId

/-- The numbers of digits in the groups of the written form. -/
def groups : List Nat := [8, 4, 4, 4, 12]

/-- Characters cut into groups of the given sizes, with hyphens between the groups. -/
def hyphenate : List Nat → List Char → List Char
  | [], _ => []
  | [size], cs => cs.take size
  | size :: sizes, cs => cs.take size ++ '-' :: hyphenate sizes (cs.drop size)

/-- The characters of hyphenated groups, without the hyphens. -/
def unhyphenate? : List Nat → List Char → Option (List Char)
  | [], cs => if cs.isEmpty then some [] else none
  | [size], cs => if cs.length = size then some cs else none
  | size :: sizes, cs =>
    match cs.drop size with
    | '-' :: rest => (unhyphenate? sizes rest).map (cs.take size ++ ·)
    | _ => none

/-- The written form. -/
def text (id : PodId) : String :=
  .ofList (hyphenate groups (Text.zeroPad 32 (Nat.toDigits 16 id.bits.toNat)))

/-- The identity that 32 hexadecimal digits write. -/
def ofHex? (cs : List Char) : Option PodId :=
  if cs.length = 32 then (Text.readNat? 16 cs).map fun n => ⟨.ofNat 128 n⟩ else none

/-- What may stand in front of the hyphenated form. -/
def urnStart : List Char := "urn:uuid:".toList

/-- The identity that a text writes. -/
def parse? (s : String) : Option PodId :=
  let hyphenated (cs : List Char) : Option PodId := (unhyphenate? groups cs).bind ofHex?
  let cs := s.toList
  if (cs.take urnStart.length).map Char.toLower = urnStart then
    hyphenated (cs.drop urnStart.length)
  else
    match cs with
    | '\x7b' :: rest => if rest.getLast? = some '\x7d' then hyphenated rest.dropLast else none
    | cs => if cs.length = 32 then ofHex? cs else hyphenated cs

/-- An endless supply of identities, counted upwards. -/
structure Supply where
  next : Nat
deriving DecidableEq

namespace Supply

/-- The supply of all identities but zero. -/
def fresh : Supply := ⟨1⟩

/-- The supply whose identities begin with 48 bits of a time in milliseconds, have version seven and
the common variant, and otherwise count upwards from the given bits. -/
def ofTime (millis high low : Nat) : Supply :=
  ⟨(millis % (1 <<< 48)) <<< 80 ||| 7 <<< 76 ||| (high % (1 <<< 12)) <<< 64 ||| 2 <<< 62 |||
    low % (1 <<< 62)⟩

/-- The next identity, and the supply without it. -/
def take (supply : Supply) : PodId × Supply :=
  (⟨.ofNat 128 supply.next⟩, ⟨supply.next + 1⟩)

end Supply

end PodId

end ClusterSim
