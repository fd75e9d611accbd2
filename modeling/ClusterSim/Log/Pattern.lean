import ClusterSim.Text.Alphanumeric
import ClusterSim.Text.Blank
import ClusterSim.Text.Numeral

/-!
# Patterns of values

Which texts are regular expressions that a filter can compare values with. The classes of letters,
digits and blanks, words and letters of either case are defined for ASCII alone, so a pattern may
use them only where it gives up Unicode with `(?-u)`; there, in turn, nothing may match a part of a
character. Repetitions are not counted.
-/

namespace ClusterSim.Pattern

/-- How a part of a pattern is read. -/
structure Mode where
  /-- Letters match in either case. -/
  anyCase : Bool
  /-- Characters and not bytes are matched. -/
  unicode : Bool
  /-- White space and comments are skipped. -/
  spaced : Bool
deriving DecidableEq

namespace Mode

/-- The mode at the beginning. -/
def initial : Mode := ⟨false, true, false⟩

/-- The mode after a flag. -/
def set (mode : Mode) (flag : Char) (value : Bool) : Mode :=
  match flag with
  | 'i' => { mode with anyCase := value }
  | 'u' => { mode with unicode := value }
  | 'x' => { mode with spaced := value }
  | _ => mode

/-- Whether letters would have to match in either case beyond ASCII. -/
def foldsUnicode (mode : Mode) : Bool := mode.anyCase && mode.unicode

/-- The characters without the white space and comments before the first other one. -/
def dropSpace : Bool → List Char → List Char
  | _, [] => []
  | true, c :: rest => dropSpace (c ≠ '\n') rest
  | false, c :: rest =>
    if Text.isBlank c then dropSpace false rest
    else if c = '#' then dropSpace true rest
    else c :: rest

/-- The characters without what the mode skips before the first other one. -/
def skip (mode : Mode) (cs : List Char) : List Char :=
  if mode.spaced then dropSpace false cs else cs

end Mode

/-- A part of a pattern that stands for itself. -/
inductive Atom where
  /-- A character; one below 256 may be written as a byte. -/
  | literal (char : Char) (isByte : Bool)
  /-- A set of ASCII characters. -/
  | set
  /-- A condition on the place. -/
  | assertion

namespace Atom

/-- Whether a character can be matched by itself. -/
def allowsLiteral (mode : Mode) (char : Char) (isByte : Bool) : Bool :=
  !mode.foldsUnicode && (mode.unicode || !isByte || char.toNat < 128)

/-- Whether a character can be in a class. -/
def allowsMember (mode : Mode) (char : Char) : Bool := mode.unicode || char.toNat < 128

end Atom

/-! ## Escapes -/

/-- The character that some hexadecimal digits write, and the rest. -/
def hex? (mode : Mode) : Nat → Nat → List Char → Option (Char × List Char)
  | 0, seen, rest => if seen.isValidChar then some (.ofNat seen, rest) else none
  | count + 1, seen, cs =>
    match mode.skip cs with
    | [] => none
    | c :: rest =>
      (Text.digitValue? 16 c).bind fun digit => hex? mode count (seen * 16 + digit) rest

/-- Whether a character stands for itself after a backslash. -/
def isEscapable (c : Char) : Bool :=
  c.toNat < 128 && !c.isAlphanum && c ≠ '<' && c ≠ '>'

/-- Reads an escape after its backslash. -/
def escape? (mode : Mode) : List Char → Option (Atom × List Char)
  | [] => none
  | c :: rest =>
    let literal (char : Char) : Option (Atom × List Char) := some (.literal char false, rest)
    match c with
    | 'x' => (hex? mode 2 0 rest).map fun (char, rest) => (.literal char true, mode.skip rest)
    | 'u' => (hex? mode 4 0 rest).map fun (char, rest) => (.literal char false, mode.skip rest)
    | 'U' => (hex? mode 8 0 rest).map fun (char, rest) => (.literal char false, mode.skip rest)
    | 'a' => literal '\x07'
    | 'f' => literal '\x0c'
    | 't' => literal '\t'
    | 'n' => literal '\n'
    | 'r' => literal '\r'
    | 'v' => literal '\x0b'
    | 'A' => some (.assertion, rest)
    | 'z' => some (.assertion, rest)
    | _ =>
      if ['d', 's', 'w'].contains c then if mode.unicode then none else some (.set, rest)
      else if ['b', 'B', '<', '>'].contains c then
        if mode.unicode then none else some (.assertion, rest)
      else if isEscapable c then literal c
      else none

/-! ## Groups -/

/-- What the text after an opening parenthesis begins. -/
inductive Opening where
  /-- A group, perhaps with a name. -/
  | group (mode : Mode) (name : Option (List Char))
  /-- A change of mode up to the end of the group around. -/
  | change (mode : Mode)

/-- The letters of the flags. -/
def flagLetters : List Char := ['i', 'm', 's', 'U', 'u', 'R', 'x']

/-- Reads flags and the colon or parenthesis after them; `value` is what they are set to, and `seen`
holds the flags before, the latest first. -/
def flags? (mode : Mode) (value : Bool) (seen : List Char) :
    List Char → Option (Opening × List Char)
  | [] => none
  | c :: rest =>
    if c = ':' || c = ')' then
      if seen.head? = some '-' then none
      else if c = ':' then some (.group mode none, rest)
      else if seen.isEmpty then none
      else some (.change mode, rest)
    else if seen.contains c then none
    else if c = '-' then flags? mode false (c :: seen) rest
    else if flagLetters.contains c then flags? (mode.set c value) value (c :: seen) rest
    else none

/-- Whether a text can be the name of a group. -/
def isName (cs : List Char) : Bool :=
  match cs with
  | [] => false
  | first :: rest =>
    (first = '_' || (Text.isAlphanumeric first && !first.isDigit)) &&
      rest.all fun c => ['_', '.', '[', ']'].contains c || Text.isAlphanumeric c

/-- Reads the name of a group and the angle bracket after it. -/
def named? (mode : Mode) (cs : List Char) : Option (Opening × List Char) :=
  let name := cs.takeWhile (· ≠ '>')
  match cs.drop name.length with
  | _ :: rest => if isName name then some (.group mode (some name), rest) else none
  | [] => none

/-- Reads what follows an opening parenthesis; nothing may be looked at ahead or behind. -/
def opening? (mode : Mode) (cs : List Char) : Option (Opening × List Char) :=
  match mode.skip cs with
  | '?' :: '=' :: _ => none
  | '?' :: '!' :: _ => none
  | '?' :: '<' :: '=' :: _ => none
  | '?' :: '<' :: '!' :: _ => none
  | '?' :: 'P' :: '<' :: rest => named? mode rest
  | '?' :: '<' :: rest => named? mode rest
  | '?' :: rest => flags? mode true [] rest
  | rest => some (.group mode none, rest)

/-! ## Classes -/

/-- The names of the ASCII classes. -/
def classNames : List String :=
  ["alnum", "alpha", "ascii", "blank", "cntrl", "digit", "graph", "lower", "print", "punct",
   "space", "upper", "word", "xdigit"]

/-- Reads an ASCII class after its opening bracket: whether it is negated, and the rest. -/
def asciiClass? : List Char → Option (Bool × List Char)
  | ':' :: cs =>
    let (negated, cs) := match cs with
      | '^' :: cs => (true, cs)
      | cs => (false, cs)
    let name := cs.takeWhile (· ≠ ':')
    match cs.drop name.length with
    | ':' :: ']' :: rest =>
      if classNames.contains (String.ofList name) then some (negated, rest) else none
    | _ => none
  | _ => none

/-- Reads the beginning of a class after its opening bracket: a caret, dashes, and a closing
bracket that stands for itself unless there were dashes. -/
def openClass? (mode : Mode) (cs : List Char) : Option (List Char) :=
  let (negated, cs) := match mode.skip cs with
    | '^' :: cs => (true, mode.skip cs)
    | cs => (false, cs)
  if mode.foldsUnicode || (negated && !mode.unicode) then none
  else
    match cs with
    | ']' :: rest => some rest
    | cs => some (cs.dropWhile fun c => c = '-' || (mode.spaced && Text.isBlank c))

/-- Reads a member of a class or an end of a range. -/
def member? (mode : Mode) : List Char → Option (Atom × List Char)
  | [] => none
  | '\\' :: rest => escape? mode rest
  | c :: rest => some (.literal c false, rest)

/-- Reads a member of a class, or a range. -/
def range? (mode : Mode) (cs : List Char) : Option (List Char) := do
  let (first, rest) ← member? mode cs
  let single (atom : Atom) : Option (List Char) :=
    match atom with
    | .literal char _ => if Atom.allowsMember mode char then some rest else none
    | .set => some rest
    | .assertion => none
  match mode.skip rest with
  | '-' :: others =>
    match mode.skip others with
    | [] => none
    | c :: others =>
      if c = ']' || c = '-' then single first
      else
        match first, ← member? mode (c :: others) with
        | .literal low _, (.literal high _, rest) =>
          if Atom.allowsMember mode low && Atom.allowsMember mode high && low ≤ high then some rest
          else none
        | _, _ => none
  | _ => single first

/-- Reads the next part of a class: how many classes are open, and the rest. -/
def classPart? (mode : Mode) (depth : Nat) : List Char → Option (Nat × List Char)
  | ']' :: rest => some (depth - 1, rest)
  | '&' :: '&' :: rest => some (depth, rest)
  | '-' :: '-' :: rest => some (depth, rest)
  | '~' :: '~' :: rest => some (depth, rest)
  | '[' :: rest =>
    match asciiClass? rest with
    | some (negated, rest) => if negated && !mode.unicode then none else some (depth, rest)
    | none => (openClass? mode rest).map fun rest => (depth + 1, rest)
  | cs => (range? mode cs).map fun rest => (depth, rest)

/-! ## Whole patterns -/

/-- What has been read of a pattern. -/
structure Reading where
  mode : Mode
  /-- The modes around the open groups, the innermost first. -/
  groups : List Mode
  /-- How many classes are open, one inside the other. -/
  classes : Nat
  /-- Whether something has just been read that can be repeated. -/
  repeatable : Bool
  /-- The names of the groups. -/
  names : List (List Char)

namespace Reading

/-- Nothing has been read. -/
def start : Reading := ⟨.initial, [], 0, false, []⟩

/-- Something has been read that can be repeated. -/
def afterAtom (reading : Reading) : Reading := { reading with repeatable := true }

/-- Reads what follows an opening parenthesis. -/
def enter? (reading : Reading) (cs : List Char) : Option (Reading × List Char) := do
  match ← opening? reading.mode cs with
  | (.change mode, rest) => return ({ reading with mode, repeatable := false }, rest)
  | (.group mode name, rest) =>
    if name.any reading.names.contains then none
    else
      return ({ reading with
        mode, groups := reading.mode :: reading.groups, repeatable := false
        names := name.toList ++ reading.names }, rest)

/-- Reads the next part of a pattern. -/
def part? (reading : Reading) (c : Char) (rest : List Char) : Option (Reading × List Char) :=
  if 0 < reading.classes then
    (classPart? reading.mode reading.classes (c :: rest)).map fun (classes, rest) =>
      ({ reading with classes, repeatable := true }, rest)
  else
    match c with
    | '(' => reading.enter? rest
    | ')' =>
      match reading.groups with
      | [] => none
      | mode :: groups => some ({ reading with mode, groups, repeatable := true }, rest)
    | '|' => some ({ reading with repeatable := false }, rest)
    | '[' =>
      (openClass? reading.mode rest).map fun rest => ({ reading with classes := 1 }, rest)
    | '\x7b' => none
    | '.' => if reading.mode.unicode then some (reading.afterAtom, rest) else none
    | '^' => some (reading.afterAtom, rest)
    | '$' => some (reading.afterAtom, rest)
    | '\\' =>
      match escape? reading.mode rest with
      | some (.literal char isByte, rest) =>
        if Atom.allowsLiteral reading.mode char isByte then some (reading.afterAtom, rest) else none
      | some (_, rest) => some (reading.afterAtom, rest)
      | none => none
    | _ =>
      if ['?', '*', '+'].contains c then
        if !reading.repeatable then none
        else
          match rest with
          | '?' :: rest => some (reading, rest)
          | rest => some (reading, rest)
      else if Atom.allowsLiteral reading.mode c false then some (reading.afterAtom, rest)
      else none

/-- Whether some characters complete a pattern; the first ones may have been read already. -/
def completes : Reading → Nat → List Char → Bool
  | reading, _, [] => reading.groups.isEmpty && reading.classes = 0
  | reading, read + 1, _ :: rest => completes reading read rest
  | reading, 0, c :: rest =>
    let after := reading.mode.skip (c :: rest)
    if after.length ≤ rest.length then completes reading (rest.length - after.length) rest
    else
      match reading.part? c rest with
      | some (next, others) => completes next (rest.length - others.length) rest
      | none => false

end Reading

/-- Whether a text is a pattern. -/
def isPattern (cs : List Char) : Bool := Reading.start.completes 0 cs

end ClusterSim.Pattern
