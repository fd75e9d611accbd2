import ClusterSim.NameMap
import ClusterSim.Yaml.Token.Lexer

/-!
# Documents

A document is a tree of scalars, sequences and mappings, each with the tag that is written at it,
and of aliases of such values. An anchor gets the number of different names that anchors have had
before it; an alias stands for the last value in the document whose anchor has the number that its
name had last.
-/

namespace ClusterSim.Yaml

/-- A value of a document as it is written. -/
inductive Node where
  | scalar (tag : Option Tag) (style : ScalarStyle) (content : String)
  | sequence (tag : Option Tag) (items : List Node)
  | mapping (tag : Option Tag) (entries : List (Node × Node))
  /-- An alias of the value whose anchor has a number. -/
  | alias (number : Nat)
deriving Inhabited

namespace Node

/-- The value of which nothing is written. -/
def empty : Node := .scalar none .plain ""

mutual

/-- The number of marks in a value: one for a scalar or an alias, two around a collection. -/
def size : Node → Nat
  | .scalar _ _ _ => 1
  | .sequence _ items => sizeOfItems items + 2
  | .mapping _ entries => sizeOfEntries entries + 2
  | .alias _ => 1

/-- The number of marks in the items of a sequence. -/
def sizeOfItems : List Node → Nat
  | [] => 0
  | item :: rest => size item + sizeOfItems rest

/-- The number of marks in the entries of a mapping. -/
def sizeOfEntries : List (Node × Node) → Nat
  | [] => 0
  | (key, value) :: rest => size key + size value + sizeOfEntries rest

end

/-- Whether a value is an alias of another one. -/
def isAlias : Node → Bool
  | .alias _ => true
  | _ => false

/-- An anchor: its number, and its value once that is complete. -/
structure Anchor where
  number : Nat
  value : Option Node

/-- The state while the tokens are read. -/
structure Progress where
  tokens : List Token
  /-- The number of the last anchor of each name. -/
  numbers : NameMap Nat
  /-- The anchors so far, the latest first. -/
  anchors : List Anchor
  /-- The declared tag handles with their meanings. -/
  handles : List (String × List UInt8)

/-- A step that reads tokens. -/
abbrev Build := StateT Progress (Except Fault)

namespace Build

/-- The next token. -/
def peek : Build (Option Token) := do return (← get).tokens.head?

/-- Goes past the next token. -/
def skip : Build Unit := modify fun state => { state with tokens := state.tokens.tail }

/-- Goes past the next token if it is the given one. -/
def skipIf (token : Token) : Build Bool := do
  if (← peek) = some token then
    skip
    return true
  else return false

/-- Whether the next token is one of the given ones. -/
def isNext (tokens : List Token) : Build Bool := do
  return (← peek).any tokens.contains

/-- Notes an anchor at the start of its value, and counts those before it. -/
def openAnchor (name : String) : Build Nat := do
  let state ← get
  let number := state.numbers.size
  set { state with
    numbers := state.numbers.insert name number
    anchors := ⟨number, none⟩ :: state.anchors }
  return state.anchors.length

/-- Notes the value of the anchor that comes after so many others. -/
def closeAnchor (before : Nat) (value : Node) : Build Unit := modify fun state =>
  let place := state.anchors.length - before - 1
  { state with anchors := state.anchors.modify place fun anchor =>
      { anchor with value := some value } }

/-- An alias of an anchor that has been seen. -/
def aliased (name : String) : Build Node := do
  match (← get).numbers.get? name with
  | some number => return .alias number
  | none => throw (.unknownAnchor name)

/-- The complete tag that a written one means. -/
def meaning (written : WrittenTag) : Build Tag := do
  if written.handle.isEmpty then return .ofBytes written.suffix
  else
    match (← get).handles.lookup written.handle with
    | some start => return ⟨Tag.beforeZero start ++ Tag.beforeZero written.suffix⟩
    | none => throw (.undeclaredTagHandle written.handle)

/-- The properties in front of a value: the place of its anchor, and its tag. -/
def properties : Build (Option String × Option WrittenTag) := do
  match ← peek with
  | some (.anchor name) =>
    skip
    match ← peek with
    | some (.tag written) => skip; return (some name, some written)
    | _ => return (some name, none)
  | some (.tag written) =>
    skip
    match ← peek with
    | some (.anchor name) => skip; return (some name, some written)
    | _ => return (none, some written)
  | _ => return (none, none)

mutual

/-- A value. `block` allows collections without brackets, and `indentless` a sequence that is not
indented more than the mapping around it. -/
def value (block indentless : Bool) : Nat → Build Node
  | 0 => throw .tooDeep
  | fuel + 1 => do
    match ← peek with
    | some (.alias name) =>
      let node ← aliased name
      skip
      return node
    | _ =>
      let (name, written) ← properties
      let tag ← written.mapM meaning
      let place ← name.mapM openAnchor
      let node ← content block indentless (name.isSome || tag.isSome) tag fuel
      if let some before := place then closeAnchor before node
      return node

/-- A value after its properties, of which there are none unless `optional` says so. -/
def content (block indentless optional : Bool) (tag : Option Tag) : Nat → Build Node
  | 0 => throw .tooDeep
  | fuel + 1 => do
    match ← peek with
    | some (.scalar style text) =>
      skip
      return .scalar tag style text
    | some .flowSequenceStart =>
      skip
      return .sequence tag (← flowSequence true fuel)
    | some .flowMappingStart =>
      skip
      return .mapping tag (← flowMapping true fuel)
    | token =>
      if indentless && token = some .blockEntry then
        return .sequence tag (← indentlessSequence fuel)
      else if block && token = some .blockSequenceStart then
        skip
        return .sequence tag (← blockSequence fuel)
      else if block && token = some .blockMappingStart then
        skip
        return .mapping tag (← blockMapping fuel)
      else if optional then return .scalar tag .plain ""
      else throw .noValue

/-- A value, or none if one of the given tokens comes next. -/
def valueUnless (block indentless : Bool) (ends : List Token) : Nat → Build Node
  | 0 => throw .tooDeep
  | fuel + 1 => do if ← isNext ends then return .empty else value block indentless fuel

/-- The entries of a sequence without brackets. -/
def blockSequence : Nat → Build (List Node)
  | 0 => throw .tooDeep
  | fuel + 1 => do
    if ← skipIf .blockEntry then
      let item ← valueUnless true false [.blockEntry, .blockEnd] fuel
      return item :: (← blockSequence fuel)
    else if ← skipIf .blockEnd then return []
    else throw .noEntry

/-- The entries of a sequence that is not indented more than the mapping around it. -/
def indentlessSequence : Nat → Build (List Node)
  | 0 => throw .tooDeep
  | fuel + 1 => do
    if ← skipIf .blockEntry then
      let item ← valueUnless true false [.blockEntry, .key, .value, .blockEnd] fuel
      return item :: (← indentlessSequence fuel)
    else return []

/-- The entries of a mapping without brackets. -/
def blockMapping : Nat → Build (List (Node × Node))
  | 0 => throw .tooDeep
  | fuel + 1 => do
    if ← skipIf .key then
      let key ← valueUnless true true [.key, .value, .blockEnd] fuel
      let found ←
        if ← skipIf .value then valueUnless true true [.key, .value, .blockEnd] fuel
        else pure .empty
      return (key, found) :: (← blockMapping fuel)
    else if ← skipIf .blockEnd then return []
    else throw .noEntry

/-- The entries of a sequence in brackets; every entry but the first follows a comma. -/
def flowSequence (first : Bool) : Nat → Build (List Node)
  | 0 => throw .tooDeep
  | fuel + 1 => do
    if ← skipIf .flowSequenceEnd then return []
    if !first then
      if !(← skipIf .flowEntry) then throw .noEntry
    if ← skipIf .flowSequenceEnd then return []
    let item ← if ← skipIf .key then singlePair fuel else value false false fuel
    return item :: (← flowSequence false fuel)

/-- A mapping of one entry inside a sequence in brackets, after the mark of its key. Where the key
is empty the token after the mark is passed over. -/
def singlePair : Nat → Build Node
  | 0 => throw .tooDeep
  | fuel + 1 => do
    let key ←
      if ← isNext [.value, .flowEntry, .flowSequenceEnd] then
        skip
        pure .empty
      else value false false fuel
    let found ←
      if ← skipIf .value then valueUnless false false [.flowEntry, .flowSequenceEnd] fuel
      else pure .empty
    return .mapping none [(key, found)]

/-- The entries of a mapping in braces; every entry but the first follows a comma. -/
def flowMapping (first : Bool) : Nat → Build (List (Node × Node))
  | 0 => throw .tooDeep
  | fuel + 1 => do
    if ← skipIf .flowMappingEnd then return []
    if !first then
      if !(← skipIf .flowEntry) then throw .noEntry
    if ← skipIf .flowMappingEnd then return []
    if ← skipIf .key then
      let key ← valueUnless false false [.value, .flowEntry, .flowMappingEnd] fuel
      let found ←
        if ← skipIf .value then valueUnless false false [.flowEntry, .flowMappingEnd] fuel
        else pure .empty
      return (key, found) :: (← flowMapping false fuel)
    else
      let key ← value false false fuel
      return (key, .empty) :: (← flowMapping false fuel)

end

/-- The directives before a document; those of the version are accepted for versions 1.1 and 1.2. -/
def directives (seen : Bool) : Nat → Build Unit
  | 0 => return
  | fuel + 1 => do
    match ← peek with
    | some (.version major minor) =>
      skip
      if seen || major ≠ 1 || (minor ≠ 1 && minor ≠ 2) then throw .badDirective
      directives true fuel
    | some (.tagHandle handle meaning) =>
      skip
      if ((← get).handles.lookup handle).isSome then throw .badDirective
      modify fun state => { state with handles := (handle, meaning) :: state.handles }
      directives seen fuel
    | _ => return

/-- The tag handles that need no declaration. -/
def knownHandles : List (String × List UInt8) :=
  [("!", [tagMark]), ("!!", (Tag.known "").bytes)]

/-- Whether a document begins with the next token only if its start is marked. -/
def isExplicit : Option Token → Bool
  | some (.version _ _) => true
  | some (.tagHandle _ _) => true
  | some .documentStart => true
  | _ => false

/-- The value of a document after the mark of its start. -/
def documentContent (fuel : Nat) : Build Node := do
  let next ← peek
  if isExplicit next || next = some .documentEnd || next = none then return .empty
  else value true false fuel

/-- The only document of a text, if there is one. -/
def document (fuel : Nat) : Build (Option Node) := do
  let next ← peek
  if next = none then return none
  let node ←
    if isExplicit next then do
      directives false fuel
      modify fun state => { state with handles := state.handles ++ knownHandles }
      if !(← skipIf .documentStart) then throw .noDocumentStart
      documentContent fuel
    else do
      modify fun state => { state with handles := knownHandles }
      value true false fuel
  modify fun state => { state with tokens := state.tokens.dropWhile (· = .documentEnd) }
  if (← peek) ≠ none then throw .severalDocuments
  return some node

end Build

end Node

/-- A document. -/
structure Document where
  root : Node
  /-- The values with anchors, under the numbers of these, the last one first. -/
  anchored : List (Nat × Node)
deriving Inhabited

namespace Document

/-- The only document of a text, if there is one. -/
def parse (text : String) : Except Fault (Option Document) := do
  let tokens ← Token.ofChars (← characters text)
  let (root, state) ← (Node.Build.document (4 * tokens.length + 8)).run ⟨tokens, .empty, [], []⟩
  let anchored := state.anchors.filterMap fun anchor => anchor.value.map (anchor.number, ·)
  return root.map fun root => { root, anchored }

/-! ### Following aliases -/

/-- How many aliases may be followed for each mark of a document. -/
def aliasesPerMark : Nat := 100

/-- A passage over a document, which keeps the number of aliases that may still be followed. -/
abbrev Passage := ReaderT Document (StateT Nat (Except Fault))

/-- Goes over a document. -/
def read {α : Type} (document : Document) (passage : Passage α) : Except Fault α := do
  let (value, _) ← (passage document).run (aliasesPerMark * document.root.size)
  return value

/-- The value that a number stands for. -/
def follow (number : Nat) : Passage Node := fun document => do
  match ← get with
  | 0 => throw .tooManyAliases
  | left + 1 =>
    set left
    match document.anchored.lookup number with
    | some node => return node
    | none => throw .noValue

/-- A value, or the one that it is an alias of. -/
def resolve : Node → Passage Node
  | .alias number => follow number
  | node => return node

end Document

end ClusterSim.Yaml
