import ClusterSim.Log.Directive

/-!
# Filters of the log

A filter is a list of directives, written with commas between them. Of the directives that apply to
an event at its target, the most specific one decides; a directive with a span admits whatever
happens inside that span.
-/

namespace ClusterSim

/-- The rules by which events are admitted. -/
structure Filter where
  directives : List Directive
deriving DecidableEq

namespace Filter

/-- The filter that admits a level and all more important ones. -/
def ofLevel (level : Level) : Filter := ⟨[.everywhere level.detail]⟩

/-- Cuts characters at commas. -/
def splitCommas : List Char → List (List Char)
  | [] => [[]]
  | c :: rest =>
    match splitCommas rest with
    | [] => [[c]]
    | first :: others => if c = ',' then [] :: first :: others else (c :: first) :: others

/-- Reads a filter; one without directives admits errors alone. -/
def parse? (s : String) : Option Filter :=
  match (splitCommas s.toList).filter (fun cs => !cs.isEmpty) with
  | [] => some (ofLevel .error)
  | pieces => (pieces.mapM Directive.parse?).map Filter.mk

/-- The most specific of some directives for one target, and the last one of those that are equally
specific. -/
def mostSpecific (directives : List Directive) : Option Directive :=
  directives.foldl
    (fun best directive =>
      if best.all directive.atLeast then some directive else best) none

/-- The detail admitted at a target for what carries certain names. -/
def detailAt (filter : Filter) (target : String) (names : Option (List String)) : Nat :=
  (mostSpecific (filter.directives.filter (·.appliesAt target names))).elim 0 (·.detail)

/-- The directives of which none is followed by another one with the same target. -/
def lastOfTarget : List Directive → List Directive
  | [] => []
  | directive :: rest =>
    if rest.any (·.target = directive.target) then lastOfTarget rest
    else directive :: lastOfTarget rest

/-- The greatest detail of some directives. -/
def greatest (directives : List Directive) : Nat :=
  directives.foldl (fun greatest d => max greatest d.detail) 0

/-- The greatest detail that the filter may admit anywhere; a directive that compares values leaves
it open. -/
def greatestDetail (filter : Filter) : Nat :=
  if filter.directives.any (·.isValued) then Directive.unlimited else greatest filter.directives

/-- The directives for what happens inside a span. -/
def inside (filter : Filter) (span : Span) : List Directive :=
  lastOfTarget (filter.directives.filter (·.appliesInside span))

/-- Whether a span is recorded; this must not ask for more detail than the filter may admit. -/
def admitsSpan (filter : Filter) (span : Span) : Bool :=
  span.level.detail ≤ filter.greatestDetail &&
    (!(filter.inside span).isEmpty || span.level.detail ≤ filter.detailAt span.target none)

/-- Whether a level is admitted at a target inside spans for what carries certain names. -/
def admitsAt (filter : Filter) (level : Level) (target : String) (spans : List Span)
    (names : Option (List String)) : Bool :=
  level.detail ≤ filter.detailAt target names ||
    spans.any fun span =>
      filter.admitsSpan span && level.detail ≤ greatest (filter.inside span)

/-- Whether an event is reported. For one with costly values the filter is first asked whether it
admits anything of that level there. -/
def admits (filter : Filter) (event : Event) : Bool :=
  filter.admitsAt event.level event.target event.spans (some event.names) &&
    (!event.costly || filter.admitsAt event.level event.target event.spans none)

end Filter

namespace Event

/-- The log line of an event: level, recorded spans, target, message and fields. -/
def line (filter : Filter) (event : Event) : String :=
  let spans := (event.spans.filter filter.admitsSpan).map (·.name)
  let around := if spans.isEmpty then "" else String.intercalate ":" spans ++ ": "
  let fields := event.fields.filterMap fun field =>
    field.2.line?.map fun value => " " ++ field.1 ++ "=" ++ value
  event.level.label ++ " " ++ around ++ event.target ++ ": " ++ event.message ++
    String.join fields

end Event

end ClusterSim
