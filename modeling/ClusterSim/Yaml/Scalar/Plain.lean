import ClusterSim.Yaml.Gap

/-!
# Plain scalars

A text without quotes. It ends before a colon or a comment that white space sets apart, before a
line that is not indented more than the collection around it, before the mark of a document, and
inside brackets before any bracket or comma.
-/

namespace ClusterSim.Yaml

/-- A scalar that has been read. -/
structure PlainText where
  content : List Char
  /-- The white space after the content. -/
  gap : Option Gap
  rest : List Char

namespace PlainText

/-- A comma, bracket or brace. -/
def isFlowMark (c : Char) : Bool :=
  c = ',' || c = '[' || c = ']' || c = '\x7b' || c = '\x7d'

/-- Whether a scalar ends after a gap, given the least indentation of its lines. -/
def endsAfter (flow : Bool) (indent : Nat) (gap : Gap) (cs : List Char) : Bool :=
  (!flow && gap.crossesLine && gap.column < indent) ||
    (gap.endsLine && atDocumentMark cs) || cs.head? = some '#'

/-- Whether a character ends a scalar, given those after it. -/
def endsAt (flow : Bool) (c : Char) (rest : List Char) : Bool :=
  (c = ':' && atWhite rest) || (flow && isFlowMark c)

/-- Whether a colon inside brackets comes before a bracket, a comma or a question mark. -/
def isGluedColon (flow : Bool) (c : Char) (rest : List Char) : Bool :=
  flow && c = ':' && rest.head?.any fun next => isFlowMark next || next = '?'

/-- Reads the scalar after a gap, if the last characters were one. -/
def read (flow : Bool) (indent : Nat) : Option Gap → List Char → Except Fault PlainText
  | gap, [] => .ok ⟨[], gap, []⟩
  | gap, c :: rest =>
    let seen := gap.getD .empty
    if isWhite c then
      if c = '\t' && seen.crossesLine && seen.column < indent then .error .tabIndentation
      else read flow indent (some (seen.push c)) rest
    else if gap.any fun gap => endsAfter flow indent gap (c :: rest) then
      .ok ⟨[], gap, c :: rest⟩
    else if isGluedColon flow c rest then .error .misplacedIndicator
    else if endsAt flow c rest then .ok ⟨[], gap, c :: rest⟩
    else do
      let text ← read flow indent none rest
      return { text with content := seen.folded ++ c :: text.content }

end PlainText

end ClusterSim.Yaml
