import ClusterSim.Log.Event
import ClusterSim.Log.Pattern
import ClusterSim.Text.Slice

/-!
# Directives of a filter

A directive admits a level of detail where it applies. It is written as a level alone, as a target,
or as `target[span{field=value}]=level`, of which the parts may be left out.
-/

namespace ClusterSim

/-- A field that a directive asks for. -/
structure FieldDemand where
  name : String
  /-- Whether the value has to match too. -/
  valued : Bool
deriving DecidableEq

namespace FieldDemand

/-- Whether digits with at most one point and an exponent are written. -/
def isDecimal (cs : List Char) : Bool :=
  let whole := cs.takeWhile Text.isDigit
  let (fraction, rest) := match cs.drop whole.length with
    | '.' :: rest => (rest.takeWhile Text.isDigit, rest.dropWhile Text.isDigit)
    | rest => ([], rest)
  let exponent := match rest with
    | [] => true
    | letter :: digits =>
      let digits := match digits with
        | '+' :: digits => digits
        | '-' :: digits => digits
        | digits => digits
      letter.toLower = 'e' && !digits.isEmpty && digits.all Text.isDigit
  !(whole ++ fraction).isEmpty && exponent

/-- Whether a text is a value that fields can be compared with: a number behind a plus sign, or a
pattern, which includes all other numbers. -/
def isValue : List Char → Bool
  | '+' :: cs =>
    isDecimal cs || ["inf", "infinity", "nan"].contains (String.ofList (cs.map Char.toLower))
  | cs => Pattern.isPattern cs

/-- Reads a name, perhaps with an equals sign and a value. -/
def parse? (cs : List Char) : Option FieldDemand :=
  let name := cs.takeWhile (· ≠ '=')
  match cs.drop name.length with
  | [] => some ⟨String.ofList name, false⟩
  | _ :: rest =>
    if isValue (rest.takeWhile (· ≠ '=')) then some ⟨String.ofList name, true⟩ else none

end FieldDemand

/-- One rule of a filter. -/
structure Directive where
  /-- The start of the targets concerned. -/
  target : String
  /-- The span concerned, if the directive names one. -/
  span : Option String
  /-- The field asked for, if there is one. -/
  field : Option FieldDemand
  /-- The greatest detail admitted, zero for none. -/
  detail : Nat
deriving DecidableEq

namespace Directive

/-- The directive that admits a detail everywhere. -/
def everywhere (detail : Nat) : Directive := ⟨"", none, none, detail⟩

/-- The detail of a directive without a level. -/
def unlimited : Nat := 5

/-- The number that digits write, with or without a plus sign. -/
def number? : List Char → Option Nat
  | '+' :: digits => Text.readNat? 10 digits
  | digits => Text.readNat? 10 digits

/-- The detail that a level admits: a name in letters of either case, or a number. -/
def detail? (cs : List Char) : Option Nat :=
  match number? cs with
  | some n => if n ≤ unlimited then some n else none
  | none =>
    let lower := String.ofList (cs.map Char.toLower)
    if lower = "off" then some 0 else (Level.ofKeyword? lower).map Level.detail

/-! ## Reading -/

/-- Whether a directive can start with a character, other than a bracket. -/
def canStart (c : Char) : Bool := ['-', ':', '_'].contains c || Text.isAlphanumeric c

/-- Where reading has come to; a part is cut out of the text once its end is found, so that the
offset of its start is kept. -/
inductive Place where
  | start
  | levelOrTarget
  | span (start : Nat)
  | field (start : Nat)
  /-- After the brace behind a field. -/
  | afterField
  /-- After the bracket behind a span. -/
  | afterSpan
  | level (start : Nat)

/-- Reads a character at an offset. -/
def step (text : List Char) (directive : Directive) (place : Place) (offset : Nat) (c : Char) :
    Option (Directive × Place) :=
  let part (start : Nat) : Option (List Char) := Text.betweenBytes? start offset text
  match place with
  | .start =>
    if c = '[' then some (directive, .span (offset + 1))
    else if canStart c then some (directive, .levelOrTarget)
    else none
  | .levelOrTarget =>
    if c = '=' || c = '[' then
      (part 0).map fun target =>
        ({ directive with target := .ofList target },
          if c = '=' then .level (offset + 1) else .span (offset + 1))
    else some (directive, place)
  | .span start =>
    if c = ']' then
      (part start).map fun name => ({ directive with span := some (.ofList name) }, .afterSpan)
    else if c = '\x7b' then
      (part start).map fun name =>
        let span := if name.isEmpty then none else some (.ofList name)
        ({ directive with span }, .field (offset + 1))
    else some (directive, place)
  | .field start =>
    if c = '\x7d' then do
      let written ← part start
      if written.isEmpty then none
      else return ({ directive with field := some (← FieldDemand.parse? written) }, .afterField)
    else some (directive, place)
  | .afterField => if c = ']' then some (directive, .afterSpan) else none
  | .afterSpan => if c = '=' then some (directive, .level (offset + 1)) else none
  | .level _ => some (directive, place)

/-- What has been read at the end of the text. -/
def finish (text : List Char) (directive : Directive) (place : Place) : Option Directive :=
  match place with
  | .levelOrTarget =>
    some ((detail? text).elim { directive with target := .ofList text } everywhere)
  | .level start => do
    let level ← Text.fromByte? start text
    if level.isEmpty then return directive
    else return { directive with detail := ← detail? level }
  | .afterSpan => some directive
  | _ => none

/-- Reads the characters from an offset on. -/
def walk (text : List Char) : Directive → Place → Nat → List Char → Option Directive
  | directive, place, _, [] => finish text directive place
  | directive, place, offset, c :: rest =>
    match step text directive place offset c with
    | some (directive, place) => walk text directive place (offset + c.utf8Size) rest
    | none => none

/-- Reads one directive. The ends of the parts are looked for in the text without the white space
around it, but the parts are cut, at the offsets found, out of the text as it is. -/
def parse? (text : List Char) : Option Directive :=
  walk text (everywhere unlimited) .start 0 (Text.trimChars text)

/-! ## Meaning -/

/-- Whether a target starts with that of the directive. -/
def concerns (directive : Directive) (target : String) : Bool :=
  directive.target.toList.isPrefixOf target.toList

/-- Whether a field has to match by its value. -/
def isValued (directive : Directive) : Bool := directive.field.any (·.valued)

/-- Whether the directive applies to all that happens at a target and carries certain names;
`none` stands for all names. -/
def appliesAt (directive : Directive) (target : String) (names : Option (List String)) : Bool :=
  directive.span.isNone && !directive.isValued && directive.concerns target &&
    directive.field.all fun field => names.all (·.contains field.name)

/-- Whether the directive applies to what happens inside a span; it must ask for no field, since
spans carry none. -/
def appliesInside (directive : Directive) (span : Span) : Bool :=
  directive.span = some span.name && directive.field.isNone && directive.concerns span.target

/-- Whether a directive that asks for a field is at least as specific as another: any field counts
more than none, and of two fields the one with the greater name. -/
def fieldAtLeast (field other : Option FieldDemand) : Bool :=
  match field, other with
  | _, none => true
  | none, some _ => false
  | some field, some other => !decide (field.name < other.name)

/-- Whether a directive for a target is at least as specific as another one for it. -/
def atLeast (directive other : Directive) : Bool :=
  other.target.length < directive.target.length ||
    (other.target.length = directive.target.length && fieldAtLeast directive.field other.field)

end Directive

end ClusterSim
