import ClusterSim.Yaml.Property
import ClusterSim.Yaml.Scalar.Block
import ClusterSim.Yaml.Scalar.Plain
import ClusterSim.Yaml.Scalar.Quoted

/-!
# Cutting a text into tokens

A lexer goes through the characters once. It keeps the columns of the open collections without
brackets, and the place of the last value that may turn out to be a key: when a colon follows, the
mark of the key, and the start of a mapping if it is the first, are put in at that place. A key lies
in one line and takes at most 1024 bytes; outside brackets one can only start where a line or an
entry does.
-/

namespace ClusterSim.Yaml

/-! ### Positions -/

/-- A place in a text. -/
structure Cursor where
  rest : List Char
  line : Nat
  column : Nat
  /-- How many bytes of the line come before it. -/
  offset : Nat

namespace Cursor

/-- The place after some characters. -/
def skip (cursor : Cursor) : Nat → Cursor
  | 0 => cursor
  | count + 1 =>
    match cursor.rest with
    | [] => cursor
    | c :: rest =>
      let next : Cursor :=
        if isBreak c then ⟨rest, cursor.line + 1, 0, 0⟩
        else ⟨rest, cursor.line, cursor.column + 1, cursor.offset + c.utf8Size⟩
      next.skip count

/-- The place where only the given characters are left. -/
def skipTo (cursor : Cursor) (rest : List Char) : Cursor :=
  cursor.skip (cursor.rest.length - rest.length)

end Cursor

/-- The place of a value that may turn out to be a key. -/
structure KeyMark where
  /-- How many tokens come before it. -/
  number : Nat
  line : Nat
  column : Nat
  offset : Nat
  /-- Whether nothing but a key can stand there. -/
  required : Bool
deriving DecidableEq

namespace KeyMark

/-- The greatest length of a key in bytes. -/
def maxLength : Nat := 1024

/-- Whether the value can no longer be a key. -/
def isStale (mark : KeyMark) (cursor : Cursor) : Bool :=
  mark.line < cursor.line || mark.offset + maxLength < cursor.offset

/-- Gives up a possible key, which must not be required. -/
def drop : Option KeyMark → Except Fault (Option KeyMark)
  | some mark => if mark.required then .error .missingColon else .ok none
  | none => .ok none

/-- Gives up a possible key if it is stale. -/
def dropStale (cursor : Cursor) (mark : Option KeyMark) : Except Fault (Option KeyMark) :=
  if mark.any (·.isStale cursor) then drop mark else .ok mark

end KeyMark

/-- The state of the passage through a text. -/
structure Lexer where
  cursor : Cursor
  /-- The tokens so far, the latest first. -/
  tokens : List Token
  /-- The columns of the open collections without brackets, the innermost first. -/
  indents : List Nat
  /-- The possible key inside the innermost brackets. -/
  key : Option KeyMark
  /-- The possible keys outside them, the innermost first. -/
  outerKeys : List (Option KeyMark)
  /-- Whether a key may start here. -/
  keyAllowed : Bool

namespace Lexer

/-- The start of a text. -/
def start (cs : List Char) : Lexer :=
  { cursor := ⟨cs, 0, 0, 0⟩
    tokens := [], indents := [], key := none, outerKeys := [], keyAllowed := true }

/-- Whether the lexer is inside brackets. -/
def inFlow (lexer : Lexer) : Bool := !lexer.outerKeys.isEmpty

/-- Adds a token. -/
def emit (lexer : Lexer) (token : Token) : Lexer := { lexer with tokens := token :: lexer.tokens }

/-- Puts a token in behind the given number of tokens. -/
def emitAt (lexer : Lexer) (number : Nat) (token : Token) : Lexer :=
  { lexer with tokens := lexer.tokens.insertIdx (lexer.tokens.length - number) token }

/-- Whether the innermost collection without brackets starts left of a column. -/
def isIndented (lexer : Lexer) (column : Nat) : Bool :=
  lexer.indents.head?.all (· < column)

/-- Opens a collection at a column if it lies right of the innermost one; its token comes behind
the given number of tokens. -/
def openBlock (lexer : Lexer) (column number : Nat) (token : Token) : Lexer :=
  if !lexer.inFlow && lexer.isIndented column then
    { lexer.emitAt number token with indents := column :: lexer.indents }
  else lexer

/-- Opens a collection here if it lies right of the innermost one. -/
def openBlockHere (lexer : Lexer) (token : Token) : Lexer :=
  lexer.openBlock lexer.cursor.column lexer.tokens.length token

/-- Closes all collections without brackets that satisfy a test, from the innermost one on. -/
def closeBlocks (lexer : Lexer) (test : Nat → Bool) : Lexer :=
  if lexer.inFlow then lexer
  else
    let closed := lexer.indents.takeWhile test
    { lexer with
      tokens := List.replicate closed.length .blockEnd ++ lexer.tokens
      indents := lexer.indents.dropWhile test }

/-- Gives up the possible key. -/
def dropKey (lexer : Lexer) : Except Fault Lexer := do
  return { lexer with key := ← KeyMark.drop lexer.key }

/-- Gives up all stale keys. -/
def dropStaleKeys (lexer : Lexer) : Except Fault Lexer := do
  let outerKeys ← lexer.outerKeys.mapM (KeyMark.dropStale lexer.cursor)
  return { lexer with key := ← KeyMark.dropStale lexer.cursor lexer.key, outerKeys }

/-- Marks the value that starts here as a possible key. -/
def markKey (lexer : Lexer) : Except Fault Lexer := do
  if lexer.keyAllowed then
    let lexer ← lexer.dropKey
    let column := lexer.cursor.column
    return { lexer with key := some {
      number := lexer.tokens.length
      line := lexer.cursor.line
      column
      offset := lexer.cursor.offset
      required := !lexer.inFlow && lexer.indents.head? = some column } }
  else return lexer

/-- Goes on to where only the given characters are left. -/
def moveTo (lexer : Lexer) (rest : List Char) : Lexer :=
  { lexer with cursor := lexer.cursor.skipTo rest }

/-- Adds a token that takes so many characters. -/
def take (lexer : Lexer) (count : Nat) (token : Token) : Lexer :=
  { lexer with cursor := lexer.cursor.skip count }.emit token

/-! ### White space and comments -/

/-- What is left after white space and comments, and whether a key may start there. A tab is
indentation, and not skipped, where a key may start outside brackets. One mark of byte order is
skipped at the start of each line, and still takes up a column. -/
def skipWhite (flow : Bool) : (lineStart comment allowed : Bool) → List Char → Bool × List Char
  | _, _, allowed, [] => (allowed, [])
  | lineStart, comment, allowed, c :: rest =>
    if isBreak c then skipWhite flow true false (allowed || !flow) rest
    else if comment || c = '#' then skipWhite flow false true allowed rest
    else if (lineStart && c = '\ufeff') || c = ' ' || (c = '\t' && (flow || !allowed)) then
      skipWhite flow false false allowed rest
    else (allowed, c :: rest)

/-- Goes on to the next token. -/
def seek (lexer : Lexer) : Except Fault Lexer := do
  let lineStart := lexer.cursor.column = 0
  let (keyAllowed, rest) :=
    skipWhite lexer.inFlow lineStart false lexer.keyAllowed lexer.cursor.rest
  let lexer ← { lexer with keyAllowed }.moveTo rest |>.dropStaleKeys
  return lexer.closeBlocks (lexer.cursor.column < ·)

/-! ### Tokens -/

/-- A directive, after its percent sign. -/
def directive (lexer : Lexer) (rest : List Char) : Except Fault Lexer := do
  let lexer ← (lexer.closeBlocks fun _ => true).dropKey
  let (token, rest) ← Property.readDirective rest
  return { lexer with keyAllowed := false }.moveTo rest |>.emit token

/-- The mark of the start or end of a document. -/
def documentMark (lexer : Lexer) (token : Token) : Except Fault Lexer := do
  let lexer ← (lexer.closeBlocks fun _ => true).dropKey
  return { lexer with keyAllowed := false }.take 3 token

/-- An opening bracket. -/
def openFlow (lexer : Lexer) (token : Token) : Except Fault Lexer := do
  let lexer ← lexer.markKey
  return { lexer with
    key := none
    outerKeys := lexer.key :: lexer.outerKeys
    keyAllowed := true }.take 1 token

/-- A closing bracket. -/
def closeFlow (lexer : Lexer) (token : Token) : Except Fault Lexer := do
  let lexer ← lexer.dropKey
  let (key, outerKeys) := match lexer.outerKeys with
    | [] => (lexer.key, [])
    | key :: outerKeys => (key, outerKeys)
  return { lexer with key, outerKeys, keyAllowed := false }.take 1 token

/-- A comma inside brackets. -/
def flowEntry (lexer : Lexer) : Except Fault Lexer := do
  let lexer ← lexer.dropKey
  return { lexer with keyAllowed := true }.take 1 .flowEntry

/-- Fails where neither brackets nor the start of a line or an entry allow an indicator. -/
def requireKeyAllowed (lexer : Lexer) : Except Fault Unit :=
  if lexer.inFlow || lexer.keyAllowed then .ok () else .error .misplacedIndicator

/-- The mark of an entry of a sequence. -/
def blockEntry (lexer : Lexer) : Except Fault Lexer := do
  lexer.requireKeyAllowed
  let lexer ← (lexer.openBlockHere .blockSequenceStart).dropKey
  return { lexer with keyAllowed := true }.take 1 .blockEntry

/-- The mark of a key. -/
def keyIndicator (lexer : Lexer) : Except Fault Lexer := do
  lexer.requireKeyAllowed
  let lexer ← (lexer.openBlockHere .blockMappingStart).dropKey
  return { lexer with keyAllowed := !lexer.inFlow }.take 1 .key

/-- The colon after a key. -/
def valueIndicator (lexer : Lexer) : Except Fault Lexer := do
  match lexer.key with
  | some mark =>
    let lexer := lexer.emitAt mark.number .key
    let lexer := lexer.openBlock mark.column mark.number .blockMappingStart
    return { lexer with key := none, keyAllowed := false }.take 1 .value
  | none =>
    lexer.requireKeyAllowed
    let lexer := lexer.openBlockHere .blockMappingStart
    return { lexer with keyAllowed := !lexer.inFlow }.take 1 .value

/-- A token that is, or comes before, a value that may be a key. -/
def keyPart (lexer : Lexer) (read : Except Fault (Token × List Char)) : Except Fault Lexer := do
  let lexer ← lexer.markKey
  let (token, rest) ← read
  return { lexer with keyAllowed := false }.moveTo rest |>.emit token

/-- A block of text, after its indicator. -/
def block (lexer : Lexer) (folded : Bool) (rest : List Char) : Except Fault Lexer := do
  let lexer ← lexer.dropKey
  let (content, rest) ←
    BlockText.read folded lexer.indents.head? (lexer.cursor.column + 1) rest
  let style := if folded then .folded else .literal
  return { lexer with keyAllowed := true }.moveTo rest |>.emit (.scalar style (.ofList content))

/-- A quoted scalar, after its opening quote. -/
def quoted (lexer : Lexer) (quote : Quote) (rest : List Char) : Except Fault Lexer :=
  lexer.keyPart do
    let (content, rest) ← QuotedText.read quote .nothing rest
    return (.scalar .quoted (.ofList content), rest)

/-- A plain scalar. After one that is followed by a break a key may start. -/
def plain (lexer : Lexer) : Except Fault Lexer := do
  let least := lexer.indents.head?.elim 0 (· + 1)
  let text ← PlainText.read lexer.inFlow least none lexer.cursor.rest
  let lexer ← lexer.keyPart (.ok (.scalar .plain (.ofList text.content), text.rest))
  return { lexer with keyAllowed := text.gap.any Gap.crossesLine }

/-- Whether a plain scalar can start with a character, given those after it. -/
def startsPlain (flow : Bool) (c : Char) (rest : List Char) : Bool :=
  !(isWhite c || "-?:,[]\x7b\x7d#&*!|>'\"%@\x60".toList.contains c) ||
    (c = '-' && !(rest.head?.any isSpace)) ||
    (!flow && (c = '?' || c = ':') && !atWhite rest)

/-- The token that starts with a character, given those after it. -/
def token (lexer : Lexer) (c : Char) (rest : List Char) : Except Fault Lexer :=
  let flow := lexer.inFlow
  let atStart := lexer.cursor.column = 0
  let alone := flow || atWhite rest
  if atStart ∧ c = '%' then lexer.directive rest
  else if atStart ∧ atMark '-' (c :: rest) then lexer.documentMark .documentStart
  else if atStart ∧ atMark '.' (c :: rest) then lexer.documentMark .documentEnd
  else if c = '[' then lexer.openFlow .flowSequenceStart
  else if c = '\x7b' then lexer.openFlow .flowMappingStart
  else if c = ']' then lexer.closeFlow .flowSequenceEnd
  else if c = '\x7d' then lexer.closeFlow .flowMappingEnd
  else if c = ',' then lexer.flowEntry
  else if c = '-' ∧ atWhite rest then lexer.blockEntry
  else if c = '?' ∧ alone then lexer.keyIndicator
  else if c = ':' ∧ alone then lexer.valueIndicator
  else if c = '*' then lexer.keyPart do
    let (name, rest) ← Property.anchorName rest
    return (.alias name, rest)
  else if c = '&' then lexer.keyPart do
    let (name, rest) ← Property.anchorName rest
    return (.anchor name, rest)
  else if c = '!' then lexer.keyPart (Property.readTag flow (c :: rest))
  else if c = '|' ∧ !flow then lexer.block false rest
  else if c = '>' ∧ !flow then lexer.block true rest
  else if c = '\'' then lexer.quoted .single rest
  else if c = '"' then lexer.quoted .double rest
  else if startsPlain flow c rest then lexer.plain
  else .error (.noToken c)

/-- The tokens up to the end of the text, each of which takes at least one character. -/
def run : Nat → Lexer → Except Fault (List Token)
  | 0, lexer => .ok lexer.tokens.reverse
  | fuel + 1, lexer => do
    let lexer ← lexer.seek
    match lexer.cursor.rest with
    | [] =>
      let lexer ← (lexer.closeBlocks fun _ => true).dropKey
      return lexer.tokens.reverse
    | c :: rest => run fuel (← lexer.token c rest)

end Lexer

/-- The tokens of some characters. -/
def Token.ofChars (cs : List Char) : Except Fault (List Token) :=
  (Lexer.start cs).run (cs.length + 1)

end ClusterSim.Yaml
