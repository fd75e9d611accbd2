/-!
# Numerals

Digits of natural numbers in a base up to sixteen, padding, and reading numerals back.
-/

namespace ClusterSim.Text

/-- The decimal numeral of a natural number. -/
def decimal (n : Nat) : String := .ofList (Nat.toDigits 10 n)

/-- The decimal numeral of an integer, with a minus sign in front of a negative one. -/
def signedDecimal : Int → String
  | .ofNat n => decimal n
  | .negSucc n => "-" ++ decimal (n + 1)

/-- Characters filled up to a width with zeros on the left. -/
def zeroPad (width : Nat) (cs : List Char) : List Char :=
  List.replicate (width - cs.length) '0' ++ cs

/-- A decimal numeral of at least the given width. -/
def paddedDecimal (width n : Nat) : String := .ofList (zeroPad width (Nat.toDigits 10 n))

/-- The value of a digit of either case, if it is below the base. -/
def digitValue? (base : Nat) (c : Char) : Option Nat :=
  let value :=
    if '0' ≤ c ∧ c ≤ '9' then some (c.toNat - '0'.toNat)
    else if 'a' ≤ c ∧ c ≤ 'z' then some (c.toNat - 'a'.toNat + 10)
    else if 'A' ≤ c ∧ c ≤ 'Z' then some (c.toNat - 'A'.toNat + 10)
    else none
  value.filter (· < base)

/-- Whether a character is one of the ten ASCII digits. -/
def isDigit (c : Char) : Bool := '0' ≤ c && c ≤ '9'

/-- The number written by digits of the base, the most significant first; `seen` is the value of
the digits already read. -/
def foldDigits (base seen : Nat) : List Char → Option Nat
  | [] => some seen
  | c :: rest =>
    match digitValue? base c with
    | some d => foldDigits base (seen * base + d) rest
    | none => none

/-- The number that a non-empty numeral of the base writes. -/
def readNat? (base : Nat) (cs : List Char) : Option Nat :=
  if cs.isEmpty then none else foldDigits base 0 cs

end ClusterSim.Text
