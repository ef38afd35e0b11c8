import SlotMachine.Binary64

/-!
# Shortest decimals

A double stands for all the real numbers that round to it. Among the decimals in that interval there
are some with fewest digits, and among those one or two nearest to the double itself: that is its
shortest decimal. Everything is done in whole numbers, on the grids of the multiples of `10 ^
power`, from the coarsest that could hold a point of the interval to finer ones.
-/

namespace SlotMachine

/-- The number `digits * 10 ^ power`. -/
structure Decimal where
  digits : Nat
  power : Int
  deriving DecidableEq, Repr

/-- Which of two equally near decimals is taken. -/
inductive TieRule
  | toEven
  | upward
  deriving DecidableEq, Repr

namespace Decimal

/-- The real numbers that round to a double: `low`, the double itself and `high` in units of
`2 ^ unit`. The ends belong to the interval iff `closed`. -/
structure Interval where
  low : Nat
  middle : Nat
  high : Nat
  unit : Int
  closed : Bool

/-- Half a step to each neighbour; below a power of two the step down is half as long. -/
def Interval.ofMagnitude (m : Magnitude) : Interval where
  low := 4 * m.mantissa - if m.mantissa = Binary64.fractionCount ∧ -1074 < m.exponent then 1 else 2
  middle := 4 * m.mantissa
  high := 4 * m.mantissa + 2
  unit := m.exponent - 2
  closed := m.mantissa % 2 == 0

/-- The interval's three numbers as multiples of `10 ^ power`, over one denominator. -/
def Interval.onGrid (i : Interval) (power : Int) : (Nat × Nat × Nat) × Nat :=
  let up := Nat.pow 2 i.unit.toNat * Nat.pow 10 (-power).toNat
  let down := Nat.pow 2 (-i.unit).toNat * Nat.pow 10 power.toNat
  ((i.low * up, i.middle * up, i.high * up), down)

/-- Whether the grid point `q` lies in the interval that has the ends `low / den` and `high / den`.
-/
def inside (closed : Bool) (low high den q : Nat) : Bool :=
  if closed then low ≤ q * den && q * den ≤ high else low < q * den && q * den < high

/-- The point of the grid of `10 ^ power` in the interval that is nearest to its middle. -/
def nearestOnGrid? (tie : TieRule) (i : Interval) (power : Int) : Option Nat :=
  let ((low, middle, high), den) := i.onGrid power
  let q := middle / den
  let below := inside i.closed low high den q && q != 0
  let above := inside i.closed low high den (q + 1)
  match below, above with
  | true, true =>
    let toBelow := middle - q * den
    let toAbove := (q + 1) * den - middle
    if toBelow < toAbove then some q
    else if toAbove < toBelow then some (q + 1)
    else match tie with
      | .toEven => some (if q % 2 = 0 then q else q + 1)
      | .upward => some (q + 1)
  | true, false => some q
  | false, true => some (q + 1)
  | false, false => none

/-- The first grid, from `10 ^ power` downward, that has a point in the interval. -/
def onFirstGrid (tie : TieRule) (i : Interval) : Nat → Int → Decimal
  | 0, power => ⟨i.middle, power⟩
  | tries + 1, power =>
    match nearestOnGrid? tie i power with
    | some digits => ⟨digits, power⟩
    | none => onFirstGrid tie i tries (power - 1)

/-- The shortest decimal of a magnitude that is not zero. The first grid is coarser than the
magnitude, and a grid thirty steps finer is finer than the steps between doubles. -/
def shortest (tie : TieRule) (m : Magnitude) : Decimal :=
  let size : Int := (Nat.log2 m.mantissa + m.exponent + 2) * 30103 / 100000 + 1
  onFirstGrid tie (.ofMagnitude m) 30 size

end Decimal

end SlotMachine
