import ClusterSim.Text.Numeral
import ClusterSim.Yaml.Token

/-!
# Directives, anchors and tags

The tokens that are made of words: each reader takes one off the front of the characters.
-/

namespace ClusterSim.Yaml.Property

/-- A reader of a part of a token. -/
abbrev Part (α : Type) := List Char → Except Fault (α × List Char)

/-! ### Tags -/

/-- Whether a character can stand in a tag; a verbatim one may also have commas and brackets. -/
def isTagChar (verbatim : Bool) (c : Char) : Bool :=
  isWord c || [';', '/', '?', ':', '@', '&', '=', '+', '$', '.', '%', '!', '~', '*', '\'', '(',
    ')'].contains c || (verbatim && [',', '[', ']'].contains c)

/-- How many bytes a character has whose first byte is given. -/
def byteLength? (first : Nat) : Option Nat :=
  if first < 0x80 then some 1
  else if first / 0x20 = 0x6 then some 2
  else if first / 0x10 = 0xe then some 3
  else if first / 0x08 = 0x1e then some 4
  else none

/-- How many bytes are still to come after an escaped one, if it can stand where so many are. -/
def missingAfter? (missing byte : Nat) : Option Nat :=
  if missing = 0 then (byteLength? byte).map (· - 1)
  else if byte / 0x40 = 2 then some (missing - 1)
  else none

/-- Reads the bytes of a tag, in which a percent sign escapes a byte by two digits. `missing` is how
many more escaped bytes the first one of a character has announced. -/
def tagBytes (verbatim : Bool) : (missing : Nat) → Part (List UInt8)
  | missing, [] => if missing = 0 then .ok ([], []) else .error .badTag
  | missing, '%' :: high :: low :: rest =>
    match Text.readNat? 16 [high, low] with
    | none => .error .badTag
    | some byte =>
      match missingAfter? missing byte with
      | none => .error .badTag
      | some missing => do
        let (more, rest) ← tagBytes verbatim missing rest
        return (.ofNat byte :: more, rest)
  | missing, c :: rest =>
    if missing ≠ 0 || c = '%' then .error .badTag
    else if isTagChar verbatim c then do
      let (more, rest) ← tagBytes verbatim 0 rest
      return (.ofNat c.toNat :: more, rest)
    else .ok ([], c :: rest)

/-- Reads a tag handle: an exclamation mark, word characters, and a second mark if there is one. -/
def handle : Part (List Char)
  | '!' :: rest =>
    let word := rest.takeWhile isWord
    match rest.dropWhile isWord with
    | '!' :: rest => .ok ('!' :: word ++ ['!'], rest)
    | rest => .ok ('!' :: word, rest)
  | _ => .error .badTag

/-- Reads a tag. -/
def readTag (flow : Bool) (cs : List Char) : Except Fault (Token × List Char) := do
  let (written, rest) ← match cs with
    | '!' :: '<' :: rest => verbatim rest
    | cs => shorthand cs
  if atWhite rest || (flow && rest.head? = some ',') then return (.tag written, rest)
  else throw .badTag
where
  /-- A complete tag, up to the closing bracket. -/
  verbatim (cs : List Char) : Except Fault (WrittenTag × List Char) := do
    match ← tagBytes true 0 cs with
    | ([], _) => throw .badTag
    | (suffix, '>' :: rest) => return (⟨"", suffix⟩, rest)
    | _ => throw .badTag
  /-- A handle and a suffix; without a second exclamation mark, the word belongs to the suffix. A
  lone mark is a complete tag. -/
  shorthand (cs : List Char) : Except Fault (WrittenTag × List Char) := do
    let (mark, rest) ← handle cs
    let (suffix, rest) ← tagBytes false 0 rest
    if 1 < mark.length && mark.getLast? = some '!' then
      if suffix.isEmpty then throw .badTag
      return (⟨.ofList mark, suffix⟩, rest)
    else
      let suffix := bytesOf (mark.drop 1) ++ suffix
      if (Tag.beforeZero suffix).isEmpty then return (⟨"", [tagMark]⟩, rest)
      else return (⟨"!", suffix⟩, rest)

/-! ### Anchors -/

/-- Whether a character can follow the name of an anchor. -/
def endsAnchor (cs : List Char) : Bool :=
  atWhite cs || cs.head?.any fun c => ['?', ':', ',', ']', '\x7d', '%', '@', '\x60'].contains c

/-- Reads the name of an anchor or alias. -/
def anchorName (cs : List Char) : Except Fault (String × List Char) :=
  let name := cs.takeWhile isWord
  let rest := cs.dropWhile isWord
  if name.isEmpty || !endsAnchor rest then .error .badAnchor else .ok (.ofList name, rest)

/-! ### Directives -/

/-- Reads a number of at most nine digits. -/
def versionNumber (cs : List Char) : Except Fault (Nat × List Char) :=
  let digits := cs.takeWhile Text.isDigit
  match Text.readNat? 10 digits with
  | some n => if digits.length ≤ 9 then .ok (n, cs.drop digits.length) else .error .badDirective
  | none => .error .badDirective

/-- Reads the value of a directive of a given name. -/
def directiveValue (name : List Char) (cs : List Char) : Except Fault (Token × List Char) := do
  let cs := cs.dropWhile isSpace
  if name = "YAML".toList then
    let (major, rest) ← versionNumber cs
    match rest with
    | '.' :: rest =>
      let (minor, rest) ← versionNumber rest
      return (.version major minor, rest)
    | _ => throw .badDirective
  else if name = "TAG".toList then
    let (mark, rest) ← handle cs
    if mark ≠ ['!'] && mark.getLast? ≠ some '!' then throw .badDirective
    if !(rest.head?.any isSpace) then throw .badDirective
    let (meaning, rest) ← tagBytes true 0 (rest.dropWhile isSpace)
    if meaning.isEmpty || !atWhite rest then throw .badDirective
    return (.tagHandle (.ofList mark) meaning, rest)
  else throw .badDirective

/-- Reads a directive after its percent sign, with the rest of its line. -/
def readDirective (cs : List Char) : Except Fault (Token × List Char) := do
  let name := cs.takeWhile isWord
  let rest := cs.dropWhile isWord
  if name.isEmpty || !atWhite rest then throw .badDirective
  let (token, rest) ← directiveValue name rest
  let rest := rest.dropWhile isSpace
  let rest := if rest.head? = some '#' then rest.dropWhile (fun c => !isBreak c) else rest
  if atBreak rest then return (token, rest.drop 1) else throw .badDirective

end ClusterSim.Yaml.Property
