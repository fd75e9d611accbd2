import ClusterSim.Yaml.Node
import ClusterSim.Yaml.Number

/-!
# Reading what is written

Parts of a document read as what is expected of them, whatever they would mean by themselves: any
scalar is a text, as it is written. Where nothing is written a collection is empty. A record has
named fields; other entries are ignored, and aliases in them are not followed.
-/

namespace ClusterSim.Yaml.Node

open Document (Passage resolve)

/-- Whether nothing is written. -/
def isBlank : Node → Bool
  | .scalar _ .plain "" => true
  | _ => false

/-- The text that is expected. -/
def asText (node : Node) : Passage String := do
  match ← resolve node with
  | .scalar _ _ content => return content
  | _ => throw (.expected "a text")

/-- The number of 64 bits that is expected: a plain scalar, or a literal block with the tag of
integers. -/
def asWord64 (node : Node) : Passage UInt64 := do
  match ← resolve node with
  | .scalar tag style content =>
    if style = .plain || (style = .literal && tag = some (.known "int")) then
      match Number.word64? content.toList with
      | some value => return value
      | none => throw (.expected "an integer")
    else throw (.expected "an integer")
  | _ => throw (.expected "an integer")

/-- The items of a sequence that is expected. -/
def asItems (node : Node) : Passage (List Node) := do
  match ← resolve node with
  | .sequence _ items => return items
  | node => if node.isBlank then return [] else throw (.expected "a sequence")

/-- The entries of a mapping that is expected; the keys are texts. -/
def asEntries (node : Node) : Passage (List (String × Node)) := do
  match ← resolve node with
  | .mapping _ entries => entries.mapM fun entry => do return (← entry.1.asText, entry.2)
  | node => if node.isBlank then return [] else throw (.expected "a mapping")

/-- The name of a choice that a scalar makes: its content, or the name of its own tag, with nothing
but null in it. -/
def choiceName (tag : Option Tag) (style : ScalarStyle) (content : String) : Option String :=
  match tag.bind Tag.name? with
  | some name =>
    let isNull := style = .plain && ["", "null", "Null", "NULL", "~"].contains content
    if isNull then some name else none
  | none => some content

/-- The choice that is expected. -/
def asChoice {α : Type} (choice? : String → Option α) (node : Node) : Passage α := do
  match ← resolve node with
  | .scalar tag style content =>
    match (choiceName tag style content).bind choice? with
    | some choice => return choice
    | none => throw (.expected "one of the known names")
  | _ => throw (.expected "a name")

/-- The fields of a record that is expected, of the given names, each at most once. -/
def asRecord (names : List String) (node : Node) : Passage (List (String × Node)) := do
  let fields := (← node.asEntries).filter fun field => names.contains field.1
  match names.find? fun name => 1 < fields.countP (·.1 = name) with
  | some name => throw (.duplicateField name)
  | none => return fields

/-- A field that may be missing. -/
def field {α : Type} (fields : List (String × Node)) (name : String) (default : α)
    (read : Node → Passage α) : Passage α :=
  match fields.lookup name with
  | some node => read node
  | none => return default

end ClusterSim.Yaml.Node
