/-!
# Doubles as exact numbers

A finite double is a whole number of halvings: its magnitude is `mantissa * 2 ^ exponent`.
Everything exact that is done with doubles is done on this form, in whole numbers: the remainder of
a division, and the double nearest to a fraction.
-/

namespace SlotMachine

/-- The number `mantissa * 2 ^ exponent`. -/
structure Magnitude where
  mantissa : Nat
  exponent : Int
  deriving DecidableEq, Repr

namespace Binary64

/-- How many fractions a double can have: `2 ^ 52`. -/
def fractionCount : Nat := 4503599627370496

/-- How many exponents a double can have: `2 ^ 11`. -/
def exponentCount : Nat := 2048

/-- The sign bit; it tells `-0.0` from `0.0`. -/
def isNegative (x : Float) : Bool :=
  x.toBits >>> 63 == 1

/-- The magnitude that the bits of a finite double stand for. -/
def magnitude (x : Float) : Magnitude :=
  let bits := x.toBits.toNat
  let fraction : Nat := bits % fractionCount
  let field : Nat := bits / fractionCount % exponentCount
  if field = 0 then ⟨fraction, -1074⟩ else ⟨fraction + fractionCount, (field : Int) - 1075⟩

/-- The bits of positive infinity. -/
def infinityBits : Nat := 0x7ff0000000000000

/-- `num / den` rounded to the nearest whole number, a half to the even one. -/
def roundDiv (num den : Nat) : Nat :=
  let q := num / den
  let r := num % den
  if 2 * r < den then q
  else if den < 2 * r then q + 1
  else if q % 2 = 0 then q else q + 1

/-- `num / den` in units of `2 ^ k`, as a fraction. -/
def inUnits (num den : Nat) (k : Int) : Nat × Nat :=
  (num * Nat.pow 2 (-k).toNat, den * Nat.pow 2 k.toNat)

/-- The bits of the double nearest to `num / den`, a half going to the even neighbour; what is too
large becomes infinity. -/
def nearestBits (num den : Nat) : Nat :=
  if num = 0 then 0 else
  let scale : Int := Nat.log2 num - Nat.log2 den
  let low : Int := max (scale - 53) (-1074)
  let (n, d) := inUnits num den low
  let unit : Int := if n / d < 2 * fractionCount then low else low + 1
  let (n, d) := inUnits num den unit
  let bits := (unit + 1074).toNat * fractionCount + roundDiv n d
  min bits infinityBits

/-- The double nearest to `num / den`, with the given sign. -/
def ofFraction (negative : Bool) (num den : Nat) : Float :=
  let bits := (nearestBits num den).toUInt64
  Float.ofBits (if negative then bits ||| 0x8000000000000000 else bits)

/-- The double nearest to `±(digits * 10 ^ power)`. -/
def ofDecimal (negative : Bool) (digits : Nat) (power : Int) : Float :=
  let size : Int := (Nat.toDigits 10 digits).length + power
  if digits = 0 ∨ size < -400 then ofFraction negative 0 1
  else if 400 < size then Float.ofBits (if negative then 0xfff0000000000000 else 0x7ff0000000000000)
  else ofFraction negative (digits * Nat.pow 10 power.toNat) (Nat.pow 10 (-power).toNat)

/-- The remainder of the division that cuts the quotient towards zero; it is exact and has the sign
of `x`. -/
def remainder (x y : Float) : Float :=
  if x.isNaN || y.isNaN || x.isInf || y == 0.0 then 0.0 / 0.0
  else if y.isInf then x
  else
    let a := magnitude x
    let b := magnitude y
    let e := min a.exponent b.exponent
    let dividend := a.mantissa * Nat.pow 2 (a.exponent - e).toNat
    let divisor := b.mantissa * Nat.pow 2 (b.exponent - e).toNat
    ofFraction (isNegative x) (dividend % divisor * Nat.pow 2 e.toNat) (Nat.pow 2 (-e).toNat)

end Binary64

end SlotMachine
