import ClusterSim.Text.Quoted

/-!
# Events of the log

What a simulation reports while it runs: a message with named values, at a level of importance,
from a named part of the program, inside spans of work.
-/

namespace ClusterSim

/-- Levels of importance, the most important first. -/
inductive Level where
  | error
  | warn
  | info
  | debug
  | trace
deriving DecidableEq, Inhabited

namespace Level

/-- How much detail a level admits. -/
def detail : Level → Nat
  | .error => 1
  | .warn => 2
  | .info => 3
  | .debug => 4
  | .trace => 5

/-- The name in log lines. -/
def label : Level → String
  | .error => "ERROR"
  | .warn => "WARN"
  | .info => "INFO"
  | .debug => "DEBUG"
  | .trace => "TRACE"

/-- The name in configurations. -/
def keyword : Level → String
  | .error => "error"
  | .warn => "warn"
  | .info => "info"
  | .debug => "debug"
  | .trace => "trace"

/-- All levels. -/
def all : List Level := [.trace, .debug, .info, .warn, .error]

/-- The level of a name in configurations. -/
def ofKeyword? (s : String) : Option Level := all.find? (·.keyword = s)

end Level

/-- A value in an event. -/
inductive FieldValue where
  /-- A text of its own, which log lines show in quotes. -/
  | text (content : String)
  /-- Something written out, which log lines show as it is. -/
  | shown (content : String)
  /-- Nothing: the event has the name, but log lines leave it out. -/
  | absent
deriving DecidableEq

namespace FieldValue

/-- The value without quotes, if there is one. -/
def content? : FieldValue → Option String
  | .text content => some content
  | .shown content => some content
  | .absent => none

/-- The value in a log line, if there is one. -/
def line? : FieldValue → Option String
  | .text content => some (Text.quoted content)
  | .shown content => some content
  | .absent => none

/-- A natural number. -/
def ofNat (n : Nat) : FieldValue := .shown (Text.decimal n)

/-- An integer. -/
def ofInt (n : Int) : FieldValue := .shown (Text.signedDecimal n)

end FieldValue

/-- A span of work, in which events happen. -/
structure Span where
  name : String
  target : String
  level : Level
deriving DecidableEq

/-- Something reported. -/
structure Event where
  level : Level
  /-- The part of the program that reports. -/
  target : String
  /-- The spans around the event, the outermost first. -/
  spans : List Span
  message : String
  fields : List (String × FieldValue)
  /-- Whether the values are costly to gather, so that a filter is asked beforehand. -/
  costly : Bool := false
deriving DecidableEq

namespace Event

/-- The event inside one more span, around the others. -/
def within (span : Span) (event : Event) : Event :=
  { event with spans := span :: event.spans }

/-- The names of what an event carries, its message among them. -/
def names (event : Event) : List String := "message" :: event.fields.map (·.1)

end Event

end ClusterSim
