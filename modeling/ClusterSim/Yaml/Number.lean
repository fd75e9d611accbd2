import ClusterSim.Text.Numeral
import ClusterSim.Yaml.Fault

/-!
# Written numbers

The forms in which integers and other numbers are written: decimal integers, integers in base 16, 8
and 2 behind `0x`, `0o` and `0b`, decimal fractions with an exponent, infinities and the value that
is no number. Digits behind a leading zero are no decimal number.
-/

namespace ClusterSim.Yaml.Number

/-- The base that a letter after a zero names. -/
def base? : Char → Option Nat
  | 'x' => some 16
  | 'o' => some 8
  | 'b' => some 2
  | _ => none

/-- Characters without a plus sign in front. -/
def withoutPlus : List Char → List Char
  | '+' :: rest => rest
  | cs => cs

/-- Whether the characters are digits behind a leading zero, with or without a sign. -/
def hasLeadingZero (cs : List Char) : Bool :=
  let digits := match cs with
    | '+' :: rest => rest
    | '-' :: rest => rest
    | cs => cs
  match digits with
  | '0' :: second :: rest => (second :: rest).all Text.isDigit
  | _ => false

/-- The number that digits of a named base write. -/
def based? : List Char → Option Nat
  | '0' :: letter :: digits => (base? letter).bind fun base => Text.readNat? base digits
  | _ => none

/-- The natural number that some characters write. -/
def nat? (cs : List Char) : Option Nat :=
  match based? (withoutPlus cs) with
  | some n => some n
  | none => if hasLeadingZero cs then none else Text.readNat? 10 (withoutPlus cs)

/-- The number whose negative some characters write. -/
def negated? : List Char → Option Nat
  | '-' :: cs =>
    match based? cs with
    | some n => some n
    | none => if hasLeadingZero cs then none else Text.readNat? 10 cs
  | _ => none

/-- The natural number below `2 ^ 64` that some characters write. -/
def word64? (cs : List Char) : Option UInt64 :=
  ((nat? cs).filter (· < UInt64.size)).map .ofNat

/-- What an integer is read as. -/
inductive Reading where
  /-- An integer of 64 bits, with or without a sign. -/
  | integer (value : Int)
  /-- An integer of more than 64 and at most 128 bits. -/
  | wide
  /-- No integer, or a longer one. -/
  | other

/-- Reads an integer. -/
def integer (cs : List Char) : Reading :=
  match nat? cs, negated? cs with
  | some n, _ =>
    if n < UInt64.size then .integer n else if n < Nat.pow 2 128 then .wide else .other
  | none, some n =>
    if n ≤ Nat.pow 2 63 then .integer (-n) else if n ≤ Nat.pow 2 127 then .wide else .other
  | none, none => .other

/-- A decimal exponent: a letter, a sign and digits, or nothing. -/
def exponent? (cs : List Char) : Option Int :=
  let digits (cs : List Char) : Option Nat := Text.readNat? 10 cs
  match cs with
  | [] => some 0
  | letter :: rest =>
    if letter = 'e' ∨ letter = 'E' then
      match rest with
      | '+' :: rest => (digits rest).map Int.ofNat
      | '-' :: rest => (digits rest).map fun n => -Int.ofNat n
      | rest => (digits rest).map Int.ofNat
    else none

/-- The number `mantissa * 10 ^ exponent`, if it is not too large for a number of 64 bits. -/
def finite? (mantissa : Nat) (exponent : Int) : Option Float :=
  let size := (Nat.toDigits 10 mantissa).length + exponent
  if mantissa = 0 || size < -400 then some 0
  else if 400 < size then none
  else
    let value := Float.ofScientific mantissa (exponent < 0) exponent.natAbs
    if value.isFinite then some value else none

/-- The number that digits with at most one point and an exponent write. -/
def decimal? (cs : List Char) : Option Float := do
  let whole := cs.takeWhile Text.isDigit
  let rest := cs.drop whole.length
  let (fraction, rest) := match rest with
    | '.' :: rest => (rest.takeWhile Text.isDigit, rest.dropWhile Text.isDigit)
    | rest => ([], rest)
  let mantissa ← Text.readNat? 10 (whole ++ fraction)
  finite? mantissa ((← exponent? rest) - fraction.length)

/-- The number with a sign in front that some characters write. -/
def signed? : List Char → Option Float
  | '-' :: cs => (decimal? cs).map (-·)
  | '+' :: cs => decimal? cs
  | cs => decimal? cs

/-- The number other than an integer that some characters write. -/
def float? (cs : List Char) : Option Float :=
  let infinity : Float := 1 / 0
  match String.ofList cs with
  | ".inf" | ".Inf" | ".INF" | "+.inf" | "+.Inf" | "+.INF" => some infinity
  | "-.inf" | "-.Inf" | "-.INF" => some (-infinity)
  | ".nan" | ".NaN" | ".NAN" => some (0 / 0)
  | _ => signed? cs

end ClusterSim.Yaml.Number
