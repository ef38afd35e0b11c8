import SlotMachine.Binary64
import SlotMachine.Json

/-!
# JSON numbers

A number in a JSON text, and the value it is read as. A number without a fraction and an exponent
that fits 64 bits is whole. Any other becomes a double in two roundings: its first digits, as many
as fit a 64-bit word, are rounded once, and the product or quotient with a power of ten is rounded
again.
-/

namespace SlotMachine

/-- A number as it is written: its digits, in parts. -/
structure NumberLiteral where
  negative : Bool
  whole : List Char
  fraction : Option (List Char)
  exponent : Option (Bool × List Char)
  deriving DecidableEq, Repr

namespace NumberLiteral

def digitValue (c : Char) : Nat := c.toNat - '0'.toNat

/-- Appends digits to a number as long as it stays below `UInt64.size`; the digits from the first
that does not fit are left. -/
def gather (n : Nat) : List Char → Nat × List Char
  | [] => (n, [])
  | c :: rest =>
    let next := 10 * n + digitValue c
    if next < UInt64.size then gather next rest else (n, c :: rest)

def ofDigits (digits : List Char) : Nat :=
  digits.foldl (fun n c => 10 * n + digitValue c) 0

/-- `10 ^ power` as a double. -/
def powerOfTen (power : Nat) : Float := Binary64.ofDecimal false 1 power

/-- `x * 10 ^ power`, by one multiplication or by divisions; nothing if it is too large. -/
def scale? (x : Float) (power : Int) : Option Float :=
  if 308 < power then
    if x == 0.0 then some x else none
  else if 0 ≤ power then
    let product := x * powerOfTen power.toNat
    if product.isInf then none else some product
  else if -308 ≤ power then some (x / powerOfTen (-power).toNat)
  else if x == 0.0 then some x
  else scale? (x / powerOfTen 308) (power + 308)
termination_by (-power).toNat

/-- The double that a number is read as; nothing if it is too large. -/
def toFloat? (n : NumberLiteral) : Option Float :=
  let (word, wholeLeft) := gather 0 n.whole
  let fraction := n.fraction.getD []
  let (word, fractionLeft) := gather word fraction
  let power : Int := wholeLeft.length - (fraction.length - fractionLeft.length : Nat) +
    match n.exponent with
    | some (true, digits) => -(ofDigits digits : Int)
    | some (false, digits) => ofDigits digits
    | none => 0
  (scale? word.toUInt64.toFloat power).map fun x => if n.negative then -x else x

/-- The value of a number: `int` or `float`. -/
def value? (n : NumberLiteral) : Option Json :=
  match n.fraction, n.exponent with
  | none, none =>
    let size := ofDigits n.whole
    if n.negative then
      if 0 < size ∧ size ≤ UInt64.size / 2 then some (.int (-size)) else n.toFloat?.map .float
    else
      if size < UInt64.size then some (.int size) else n.toFloat?.map .float
  | _, _ => n.toFloat?.map .float

end NumberLiteral

end SlotMachine
