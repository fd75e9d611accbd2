import ClusterSim.Yaml.Character

/-!
# Gaps in scalars

A run of white space between two words of a scalar. Within a line it is kept. Across lines the
white space around the breaks is dropped; a single break becomes a space, and of several the first
is dropped.
-/

namespace ClusterSim.Yaml

/-- A run of white space. -/
structure Gap where
  /-- The white space before the first break. -/
  spaces : List Char
  breaks : List Char
  /-- Whether the run began with an escaped break, which is not among the breaks. -/
  escaped : Bool
  /-- How many characters came after the last break. -/
  column : Nat
deriving DecidableEq

namespace Gap

/-- No white space. -/
def empty : Gap := ⟨[], [], false, 0⟩

/-- An escaped break. -/
def ofEscape : Gap := ⟨[], [], true, 0⟩

/-- Whether the run reaches into another line. -/
def crossesLine (gap : Gap) : Bool := gap.escaped || !gap.breaks.isEmpty

/-- Whether the run ends at the start of a line. -/
def endsLine (gap : Gap) : Bool := gap.crossesLine && gap.column = 0

/-- The run with one more character. -/
def push (gap : Gap) (c : Char) : Gap :=
  if isBreak c then { gap with breaks := gap.breaks ++ [c], column := 0 }
  else if gap.crossesLine then { gap with column := gap.column + 1 }
  else { gap with spaces := gap.spaces ++ [c], column := gap.column + 1 }

/-- What stands for the run between the words. -/
def folded (gap : Gap) : List Char :=
  if gap.escaped then gap.breaks
  else
    match gap.breaks with
    | [] => gap.spaces
    | ['\n'] => [' ']
    | '\n' :: further => further
    | breaks => breaks

end Gap

end ClusterSim.Yaml
