import ClusterSim.Text.Numeral

/-!
# JSON values

Values of the format in which the state is exported, their compact text, and the steps by which
values are read: numbers of a fixed width, texts, and records. A record is written as an object
and read from an object, whose other members are ignored, or from an array of all its fields.
-/

namespace ClusterSim

/-- A JSON value. -/
inductive Json where
  | null
  | bool (value : Bool)
  /-- A number written without point and exponent. -/
  | int (value : Int)
  /-- Any other number: `mantissa / 10 ^ scale`. -/
  | fraction (mantissa : Int) (scale : Nat)
  | text (content : String)
  | array (items : List Json)
  | object (members : List (String × Json))
deriving Inhabited

namespace Json

/-! ### Writing -/

/-- One character of a written text. -/
def escape (c : Char) : List Char :=
  match c with
  | '"' => ['\\', '"']
  | '\\' => ['\\', '\\']
  | '\n' => ['\\', 'n']
  | '\r' => ['\\', 'r']
  | '\t' => ['\\', 't']
  | '\x08' => ['\\', 'b']
  | '\x0c' => ['\\', 'f']
  | c =>
    if c.toNat < 0x20 then ['\\', 'u'] ++ Text.zeroPad 4 (Nat.toDigits 16 c.toNat) else [c]

/-- A text in quotes. -/
def quote (s : String) : String := .ofList ('"' :: s.toList.flatMap escape ++ ['"'])

/-- A decimal number with `scale` digits after the point. -/
def fractionText (mantissa : Int) (scale : Nat) : String :=
  let digits := Text.zeroPad (scale + 1) (Nat.toDigits 10 mantissa.natAbs)
  let whole := digits.take (digits.length - scale)
  let rest := digits.drop (digits.length - scale)
  (if mantissa < 0 then "-" else "") ++ .ofList whole ++ "." ++ .ofList rest

mutual

/-- The text of a value, without white space. -/
def compact : Json → String
  | .null => "null"
  | .bool value => if value then "true" else "false"
  | .int value => Text.signedDecimal value
  | .fraction mantissa scale => fractionText mantissa scale
  | .text content => quote content
  | .array items => "[" ++ String.intercalate "," (compactItems items) ++ "]"
  | .object members => "\x7b" ++ String.intercalate "," (compactMembers members) ++ "\x7d"

/-- The texts of the items of an array. -/
def compactItems : List Json → List String
  | [] => []
  | item :: rest => compact item :: compactItems rest

/-- The texts of the members of an object. -/
def compactMembers : List (String × Json) → List String
  | [] => []
  | (key, value) :: rest => (quote key ++ ":" ++ compact value) :: compactMembers rest

end

/-- A number of 64 bits. -/
def ofWord64 (n : UInt64) : Json := .int n.toNat

/-- A number of 32 bits. -/
def ofWord32 (n : UInt32) : Json := .int n.toNat

/-- A signed number of 32 bits. -/
def ofInt32 (n : Int32) : Json := .int n.toInt

/-! ### Reading -/

/-- The text that a value is. -/
def text? : Json → Option String
  | .text content => some content
  | _ => none

/-- The natural number below `2 ^ 64` that a value is. -/
def word64? : Json → Option UInt64
  | .int n => if 0 ≤ n ∧ n < UInt64.size then some (.ofNat n.toNat) else none
  | _ => none

/-- The natural number below `2 ^ 32` that a value is. -/
def word32? : Json → Option UInt32
  | .int n => if 0 ≤ n ∧ n < UInt32.size then some (.ofNat n.toNat) else none
  | _ => none

/-- The signed number of 32 bits that a value is. -/
def int32? : Json → Option Int32
  | .int n => if -2147483648 ≤ n ∧ n ≤ 2147483647 then some (.ofInt n) else none
  | _ => none

/-- The items of an array, each read. -/
def list? {α : Type} (read : Json → Option α) : Json → Option (List α)
  | .array items => items.mapM read
  | _ => none

/-- The fields of a record in the order of their names; an object may lack some. -/
def fields? (names : List String) : Json → Option (List (Option Json))
  | .object members => some (names.map fun name => members.lookup name)
  | .array items => if items.length = names.length then some (items.map some) else none
  | _ => none

/-- A field that must be there. -/
def required {α : Type} (read : Json → Option α) (field : Option Json) : Option α :=
  field.bind read

/-- A field that may be absent or null. -/
def optional {α : Type} (read : Json → Option α) : Option Json → Option (Option α)
  | none => some none
  | some .null => some none
  | some value => (read value).map some

end Json

end ClusterSim
