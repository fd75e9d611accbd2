/-!
# White space

The characters with the property White_Space, and removal of them from both ends of a text.
-/

namespace ClusterSim.Text

/-- Whether a character has the property White_Space. -/
def isBlank (c : Char) : Bool :=
  let n := c.toNat
  (9 ≤ n && n ≤ 13) || n = 0x20 || n = 0x85 || n = 0xa0 || n = 0x1680 ||
    (0x2000 ≤ n && n ≤ 0x200a) || n = 0x2028 || n = 0x2029 || n = 0x202f || n = 0x205f ||
    n = 0x3000

/-- The characters without the white space before the first other one. -/
def dropBlank (cs : List Char) : List Char := cs.dropWhile isBlank

/-- The characters without white space at either end. -/
def trimChars (cs : List Char) : List Char := (dropBlank (dropBlank cs).reverse).reverse

/-- The text without white space at either end. -/
def trim (s : String) : String := .ofList (trimChars s.toList)

/-- Whether a text holds nothing but white space. -/
def allBlank (s : String) : Bool := s.toList.all isBlank

end ClusterSim.Text
