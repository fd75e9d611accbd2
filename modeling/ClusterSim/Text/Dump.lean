import ClusterSim.Text.Quoted

/-!
# Dumps of values

The one-line notation in which a failed command shows its error, and in which log lines show
structured values: names, records with named fields, and names applied to values.
-/

namespace ClusterSim

/-- A value as it is shown in a dump. -/
inductive Dump where
  /-- Something already written out, such as a number or a bare name. -/
  | bare (shown : String)
  /-- A text, shown in quotes. -/
  | text (content : String)
  /-- A name with named fields; `openEnded` says that further fields are not shown. -/
  | record (name : String) (fields : List (String × Dump)) (openEnded : Bool)
  /-- A name applied to one value. -/
  | applied (name : String) (value : Dump)
  /-- A sequence of values. -/
  | list (items : List Dump)
  /-- A map, from keys to values. -/
  | map (entries : List (Dump × Dump))

namespace Dump

mutual

/-- The notation of a value. -/
def render : Dump → String
  | .bare shown => shown
  | .text content => Text.quoted content
  | .record name fields openEnded =>
    match renderFields fields, openEnded with
    | [], false => name
    | [], true => name ++ " \x7b .. \x7d"
    | shown, openEnded =>
      let shown := shown ++ if openEnded then [".."] else []
      name ++ " \x7b " ++ String.intercalate ", " shown ++ " \x7d"
  | .applied name value => name ++ "(" ++ render value ++ ")"
  | .list items => "[" ++ String.intercalate ", " (renderItems items) ++ "]"
  | .map entries => "\x7b" ++ String.intercalate ", " (renderEntries entries) ++ "\x7d"

/-- The fields of a record, each with its name. -/
def renderFields : List (String × Dump) → List String
  | [] => []
  | (name, value) :: rest => (name ++ ": " ++ render value) :: renderFields rest

/-- The items of a sequence. -/
def renderItems : List Dump → List String
  | [] => []
  | item :: rest => render item :: renderItems rest

/-- The entries of a map. -/
def renderEntries : List (Dump × Dump) → List String
  | [] => []
  | (key, value) :: rest => (render key ++ ": " ++ render value) :: renderEntries rest

end

end Dump

end ClusterSim
