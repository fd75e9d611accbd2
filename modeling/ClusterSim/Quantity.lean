import ClusterSim.Resources
import ClusterSim.Text.Blank
import ClusterSim.Text.Quoted

/-!
# Written quantities

A quantity is an unsigned decimal number with at most nine digits after the point, followed by a
suffix that scales it: `m` for a thousandth, `k` or `K`, `M`, `G`, `T`, `P` for powers of a
thousand, `Ki`, `Mi`, `Gi`, `Ti`, `Pi` for powers of 1024. Quantities of `cpu` are counted in
thousandths. The amount is the exact value rounded up, so that a demand is never understated.
Intermediate integers have 128 bits: a number that does not fit is refused as notation, a scaled
one as out of range.
-/

namespace ClusterSim

/-- Why a quantity is refused. -/
inductive QuantityFault where
  /-- Nothing but white space. -/
  | empty
  /-- Not in the notation of quantities. -/
  | invalid
  /-- A value of `2 ^ 64` or more. -/
  | overflow
deriving DecidableEq, Repr

/-- A refused quantity: its dimension and the text as it was given. -/
structure QuantityError where
  fault : QuantityFault
  dimension : String
  raw : String
deriving DecidableEq

/-- The message for a refused quantity. -/
def QuantityError.message (e : QuantityError) : String :=
  match e.fault with
  | .empty => "empty quantity for resource " ++ e.dimension
  | .invalid => "invalid quantity " ++ Text.quoted e.raw ++ " for resource " ++ e.dimension
  | .overflow =>
    "quantity " ++ Text.quoted e.raw ++ " for resource " ++ e.dimension ++ " is out of range"

namespace Quantity

/-- The digits allowed after the point. -/
def maxFractionDigits : Nat := 9

/-- Intermediate integers lie below this limit. -/
def wideLimit : Nat := UInt64.size * UInt64.size

/-- A natural number, if it lies below the limit of intermediate integers. -/
def wide? (n : Nat) : Option Nat := if n < wideLimit then some n else none

/-- Whether a character can occur in the number in front of the suffix. -/
def isNumberChar (c : Char) : Bool := Text.isDigit c || c = '.'

/-- The numerator and denominator by which a suffix scales. -/
def factor? : List Char → Option (Nat × Nat)
  | [] => some (1, 1)
  | ['m'] => some (1, 1000)
  | ['k'] => some (1000, 1)
  | ['K'] => some (1000, 1)
  | ['M'] => some (Nat.pow 1000 2, 1)
  | ['G'] => some (Nat.pow 1000 3, 1)
  | ['T'] => some (Nat.pow 1000 4, 1)
  | ['P'] => some (Nat.pow 1000 5, 1)
  | ['K', 'i'] => some (1024, 1)
  | ['M', 'i'] => some (Nat.pow 1024 2, 1)
  | ['G', 'i'] => some (Nat.pow 1024 3, 1)
  | ['T', 'i'] => some (Nat.pow 1024 4, 1)
  | ['P', 'i'] => some (Nat.pow 1024 5, 1)
  | _ => none

/-- The numerator of a decimal number and the power of ten that divides it. -/
def number? (cs : List Char) : Option (Nat × Nat) := do
  let whole := cs.takeWhile (· ≠ '.')
  let fraction := (cs.dropWhile (· ≠ '.')).drop 1
  if whole.isEmpty && fraction.isEmpty then none
  else if fraction.contains '.' then none
  else if maxFractionDigits < fraction.length then none
  else
    let wholeValue ← (Text.foldDigits 10 0 whole).bind wide?
    let fractionValue ← Text.foldDigits 10 0 fraction
    let scale := Nat.pow 10 fraction.length
    let numerator ← wide? (wholeValue * scale + fractionValue)
    some (numerator, scale)

/-- The quotient rounded up. -/
def ceilDiv (a b : Nat) : Nat := (a + b - 1) / b

/-- The units of an amount that make one of its dimension as written. -/
def unitsOf (dimension : String) : Nat := if dimension = Dimension.cpu then 1000 else 1

/-- The amount of a dimension that a text writes. -/
def parse (dimension raw : String) : Except QuantityError Amount :=
  let refuse (fault : QuantityFault) : Except QuantityError Amount :=
    .error { fault, dimension, raw }
  let text := Text.trimChars raw.toList
  if text.isEmpty then refuse .empty
  else
    match number? (text.takeWhile isNumberChar), factor? (text.dropWhile isNumberChar) with
    | some (numerator, scale), some (multiplier, divisor) =>
      match wide? (numerator * multiplier * unitsOf dimension) with
      | none => refuse .overflow
      | some top =>
        let value := ceilDiv top (scale * divisor)
        if value < UInt64.size then .ok (.ofNat value) else refuse .overflow
    | _, _ => refuse .invalid

end Quantity

/-- Reads a quantity for each dimension; the error is that of the first faulty dimension. -/
def Resources.parse (quantities : NameMap String) : Except QuantityError Resources := do
  let amounts ← quantities.entries.mapM fun entry => do
    let amount ← Quantity.parse entry.1 entry.2
    return (entry.1, amount)
  return .ofList amounts

end ClusterSim
