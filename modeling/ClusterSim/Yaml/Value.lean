import ClusterSim.Yaml.Node
import ClusterSim.Yaml.Number

/-!
# Values of documents

The value that a document means by itself, before anything particular is expected of it: plain
scalars are null, truth values or numbers where they have the form of one, and texts otherwise. A
mapping has no two entries of one key.
-/

namespace ClusterSim.Yaml

/-- The value of a document. -/
inductive Value where
  | null
  | bool (value : Bool)
  | integer (value : Int)
  | float (value : Float)
  | text (content : String)
  | sequence (items : List Value)
  | mapping (entries : List (Value × Value))
  /-- A value with a tag of its own. -/
  | tagged (tag : String) (value : Value)

namespace Value

open Document (Passage resolve)

mutual

/-- Whether two values are the same; the order of the entries of a mapping does not count. -/
def same : Value → Value → Bool
  | .null, .null => true
  | .bool a, .bool b => a = b
  | .integer a, .integer b => a = b
  | .float a, .float b => a == b || (a.isNaN && b.isNaN)
  | .text a, .text b => a = b
  | .sequence a, .sequence b => sameItems a b
  | .mapping a, .mapping b => a.length = b.length && sameEntries a b
  | .tagged tag a, .tagged other b => tag = other && same a b
  | _, _ => false

/-- Whether two lists of values are the same. -/
def sameItems : List Value → List Value → Bool
  | [], [] => true
  | a :: rest, b :: others => same a b && sameItems rest others
  | _, _ => false

/-- Whether all entries are among the others. -/
def sameEntries : List (Value × Value) → List (Value × Value) → Bool
  | [], _ => true
  | (key, value) :: rest, others =>
    others.any (fun other => same key other.1 && same value other.2) && sameEntries rest others

end

/-! ### Scalars -/

/-- Whether characters are a form of null. -/
def isNull (s : String) : Bool := ["null", "Null", "NULL", "~"].contains s

/-- The truth value that a text is. -/
def bool? (s : String) : Option Bool :=
  if ["true", "True", "TRUE"].contains s then some true
  else if ["false", "False", "FALSE"].contains s then some false
  else none

/-- The value of a plain scalar. -/
def ofPlain (s : String) : Except Fault Value :=
  if s.isEmpty || isNull s then .ok .null
  else
    match bool? s with
    | some value => .ok (.bool value)
    | none =>
      match Number.integer s.toList with
      | .integer value => .ok (.integer value)
      | .wide => .error .wideInteger
      | .other =>
        if Number.hasLeadingZero s.toList then .ok (.text s)
        else .ok ((Number.float? s.toList).elim (.text s) .float)

/-- The value of a scalar with a tag that is not a document's own. -/
def ofKnownTag (tag : Tag) (content : String) : Except Fault Value :=
  let mismatch : Except Fault Value := .error .tagMismatch
  if tag = .known "bool" then (bool? content).elim mismatch fun value => .ok (.bool value)
  else if tag = .known "int" then
    match Number.integer content.toList with
    | .integer value => .ok (.integer value)
    | _ => mismatch
  else if tag = .known "float" then
    (Number.float? content.toList).elim mismatch fun value => .ok (.float value)
  else if tag = .known "null" then if isNull content then .ok .null else mismatch
  else .ok (.text content)

/-- The value of a scalar without regard to its tag. -/
def ofUntagged (style : ScalarStyle) (content : String) : Except Fault Value :=
  if style = .plain then ofPlain content else .ok (.text content)

/-- The name of a document's own tag, by which values with tags are compared; a second exclamation
mark in front does not count. -/
def tagName (name : String) : String :=
  match name.toList with
  | '!' :: c :: rest => .ofList (c :: rest)
  | _ => name

/-- A value with a tag of its own, if there is one. -/
def withTag (name : Option String) (value : Value) : Value :=
  match name with
  | some name => .tagged (tagName name) value
  | none => value

/-- The value of a scalar. -/
def ofScalar (tag : Option Tag) (style : ScalarStyle) (content : String) :
    Except Fault Value := do
  match tag with
  | some tag =>
    match tag.name? with
    | some name => return withTag name (← ofUntagged style content)
    | none =>
      if tag.isOwn && style = .plain then ofPlain content else ofKnownTag tag content
  | none => ofUntagged style content

/-! ### Collections -/

/-- How deeply collections may be nested. -/
def maxDepth : Nat := 128

/-- Entries with no two of one key. -/
def distinct (entries : List (Value × Value)) : Except Fault (List (Value × Value)) :=
  if entries.length = (entries.eraseDupsBy fun a b => same a.1 b.1).length then .ok entries
  else .error .duplicateKey

/-- The value of a part of a document, in which collections may be nested so deeply. In a part that
has a tag already no other one counts, and neither does one in a key of it. -/
def ofNode (depth : Nat) (hasTag : Bool) (node : Node) : Passage Value := do
  let hasTag := hasTag && !node.isAlias
  match ← resolve node with
  | .scalar tag style content =>
    if hasTag then ofUntagged style content else ofScalar tag style content
  | .sequence tag items =>
    match depth with
    | 0 => throw .tooDeep
    | depth + 1 =>
      let name := if hasTag then none else tag.bind Tag.name?
      return withTag name (.sequence (← items.mapM (ofNode depth false)))
  | .mapping tag entries =>
    match depth with
    | 0 => throw .tooDeep
    | depth + 1 =>
      let name := if hasTag then none else tag.bind Tag.name?
      let entries ← entries.mapM fun entry => do
        return (← ofNode depth (hasTag || name.isSome) entry.1, ← ofNode depth false entry.2)
      return withTag name (.mapping (← distinct entries))
  | .alias _ => throw .noValue

/-- The value of the document of a text; a text without documents is null. -/
def parse (text : String) : Except Fault Value := do
  match ← Document.parse text with
  | some document => document.read (ofNode maxDepth false document.root)
  | none => return .null

/-! ### Expectations -/

/-- The value without its tag. -/
def untagged : Value → Value
  | .tagged _ value => untagged value
  | value => value

/-- The value of a key of a mapping. -/
def get? (value : Value) (key : String) : Option Value :=
  match value.untagged with
  | .mapping entries => (entries.find? fun entry => same (.text key) entry.1).map (·.2)
  | _ => none

/-- The text that is expected. -/
def asText (value : Value) : Except Fault String :=
  match value.untagged with
  | .text content => .ok content
  | _ => .error (.expected "a text")

/-- The integer between two bounds that is expected. -/
def asInteger (least greatest : Int) (value : Value) : Except Fault Int :=
  match value.untagged with
  | .integer n =>
    if least ≤ n ∧ n ≤ greatest then .ok n else .error (.expected "an integer in range")
  | _ => .error (.expected "an integer")

/-- The values of a sequence that is expected; null has none. -/
def asItems (value : Value) : Except Fault (List Value) :=
  match value.untagged with
  | .sequence items => .ok items
  | .null => .ok []
  | _ => .error (.expected "a sequence")

/-- The fields of a record that is expected, of the given names, each at most once; null has none.
All keys are texts. -/
def asRecord (names : List String) (value : Value) : Except Fault (List (String × Value)) :=
  match value.untagged with
  | .mapping entries => do
    let entries ← entries.mapM fun entry => do return (← entry.1.asText, entry.2)
    let fields := entries.filter fun field => names.contains field.1
    match names.find? fun name => 1 < fields.countP (·.1 = name) with
    | some name => throw (.duplicateField name)
    | none => return fields
  | .null => .ok []
  | _ => .error (.expected "a mapping")

/-- A value that null stands in for. -/
def asOptional {α : Type} (read : Value → Except Fault α) : Value → Except Fault (Option α)
  | .null => .ok none
  | value => (read value).map some

end Value

end ClusterSim.Yaml
