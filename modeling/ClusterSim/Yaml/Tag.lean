import ClusterSim.Yaml.Character

/-!
# Tags

A tag is a run of bytes that names the type of a value. Escapes can put any byte into it, so it need
not be the encoding of a text, and a zero byte ends it. A tag that starts with an exclamation mark
is a document's own; the others are names of types that the notation knows.
-/

namespace ClusterSim.Yaml

/-- The bytes of a text. -/
def bytesOf (cs : List Char) : List UInt8 := cs.flatMap String.utf8EncodeChar

/-- The exclamation mark with which a document's own tags start. -/
def tagMark : UInt8 := 0x21

/-- A tag. -/
structure Tag where
  bytes : List UInt8
deriving DecidableEq

namespace Tag

/-- The bytes of a run before the first zero byte. -/
def beforeZero (bytes : List UInt8) : List UInt8 := bytes.takeWhile (· ≠ 0)

/-- The tag of a run of bytes. -/
def ofBytes (bytes : List UInt8) : Tag := ⟨beforeZero bytes⟩

/-- The tag of a type that the notation knows. -/
def known (name : String) : Tag := ⟨bytesOf ("tag:yaml.org,2002:" ++ name).toList⟩

/-- Whether a tag is a document's own. -/
def isOwn (tag : Tag) : Bool := tag.bytes.head? = some tagMark

/-- The name of a document's own tag: what follows its first exclamation mark, or the mark itself
where nothing follows. -/
def name? (tag : Tag) : Option String :=
  match tag.bytes with
  | [] => none
  | first :: rest =>
    if first ≠ tagMark then none
    else String.fromUTF8? ⟨(if rest.isEmpty then [tagMark] else rest).toArray⟩

end Tag

/-- A tag as it is written: a handle, or none in a complete tag, and what follows it. -/
structure WrittenTag where
  handle : String
  suffix : List UInt8
deriving DecidableEq

end ClusterSim.Yaml
