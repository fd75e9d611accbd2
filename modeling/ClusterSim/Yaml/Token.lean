import ClusterSim.Yaml.Tag

/-!
# Tokens of YAML

The parts into which a text is cut: marks of documents, starts and ends of collections, marks of
entries, properties of values, and scalars. Starts and ends of collections without brackets have no
characters of their own.
-/

namespace ClusterSim.Yaml

/-- How a scalar is written. -/
inductive ScalarStyle where
  | plain
  | quoted
  | literal
  | folded
deriving DecidableEq

/-- A part of a text. -/
inductive Token where
  /-- A directive that names the version of the notation. -/
  | version (major minor : Nat)
  /-- A directive that declares a tag handle. -/
  | tagHandle (handle : String) (meaning : List UInt8)
  | documentStart
  | documentEnd
  | blockSequenceStart
  | blockMappingStart
  | blockEnd
  | flowSequenceStart
  | flowSequenceEnd
  | flowMappingStart
  | flowMappingEnd
  /-- The mark of an entry of a sequence without brackets. -/
  | blockEntry
  /-- The comma between two entries inside brackets. -/
  | flowEntry
  | key
  | value
  | alias (name : String)
  | anchor (name : String)
  | tag (written : WrittenTag)
  | scalar (style : ScalarStyle) (content : String)
deriving DecidableEq

end ClusterSim.Yaml
