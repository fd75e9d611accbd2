import ClusterSim.Text.Numeral
import ClusterSim.Yaml.Fault

/-!
# Characters of YAML

The classes of characters on which the notation rests, and the characters of a text with all forms
of a line break but the two separators read as a line feed.
-/

namespace ClusterSim.Yaml

/-- Space or tab. -/
def isSpace (c : Char) : Bool := c = ' ' || c = '\t'

/-- Line feed, line separator or paragraph separator. -/
def isBreak (c : Char) : Bool := c = '\n' || c = '\u2028' || c = '\u2029'

/-- White space inside or between lines. -/
def isWhite (c : Char) : Bool := isSpace c || isBreak c

/-- Characters of the names of anchors, directives and tag handles. -/
def isWord (c : Char) : Bool := c.isAlphanum || c = '_' || c = '-'

/-- Whether white space or nothing follows. -/
def atWhite : List Char → Bool
  | [] => true
  | c :: _ => isWhite c

/-- Whether a line break or nothing follows. -/
def atBreak : List Char → Bool
  | [] => true
  | c :: _ => isBreak c

/-- Whether three marks follow that stand alone. -/
def atMark (mark : Char) : List Char → Bool
  | a :: b :: c :: rest => a = mark && b = mark && c = mark && atWhite rest
  | _ => false

/-- Whether the mark of the start or end of a document follows. -/
def atDocumentMark (cs : List Char) : Bool := atMark '-' cs || atMark '.' cs

/-- Whether a text may contain a character. -/
def isAllowed (c : Char) : Bool :=
  let n := c.toNat
  n = 0x09 || n = 0x0a || n = 0x0d || (0x20 ≤ n && n ≤ 0x7e) || n = 0x85 ||
    (0xa0 ≤ n && n ≤ 0xfffd) || 0x10000 ≤ n

/-- The characters with carriage returns, alone or before a line feed, and next-line controls read
as a line feed. -/
def unifyBreaks : List Char → List Char
  | [] => []
  | '\r' :: '\n' :: rest => '\n' :: unifyBreaks rest
  | c :: rest => (if c = '\r' || c = '\u0085' then '\n' else c) :: unifyBreaks rest

/-- The characters of a text, if all are allowed. -/
def characters (text : String) : Except Fault (List Char) :=
  match text.toList.find? (fun c => !isAllowed c) with
  | some c => .error (.forbiddenCharacter c)
  | none => .ok (unifyBreaks text.toList)

end ClusterSim.Yaml
