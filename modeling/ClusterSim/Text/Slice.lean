/-!
# Parts between byte offsets

The part of a text between two offsets in bytes, which exists only where no character is cut.
-/

namespace ClusterSim.Text

/-- The characters before and after an offset in bytes. -/
def splitAtByte? : Nat → List Char → Option (List Char × List Char)
  | 0, cs => some ([], cs)
  | _ + 1, [] => none
  | n + 1, c :: rest =>
    if c.utf8Size ≤ n + 1 then
      (splitAtByte? (n + 1 - c.utf8Size) rest).map fun parts => (c :: parts.1, parts.2)
    else none

/-- The characters from an offset on. -/
def fromByte? (start : Nat) (cs : List Char) : Option (List Char) :=
  (splitAtByte? start cs).map (·.2)

/-- The characters between two offsets. -/
def betweenBytes? (start stop : Nat) (cs : List Char) : Option (List Char) :=
  (fromByte? start cs).bind fun rest => (splitAtByte? (stop - start) rest).map (·.1)

end ClusterSim.Text
