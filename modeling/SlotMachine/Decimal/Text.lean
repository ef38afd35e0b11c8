import SlotMachine.Decimal.Shortest

/-!
# Doubles as text

Two written forms of a double, both from its shortest decimal. In records a number is positional
from `0.00001` up to below `10 ^ 16` and keeps a fraction digit, and is otherwise written with an
exponent; in messages it is always positional and a whole number has no point.
-/

namespace SlotMachine

/-- How the shortest decimal of a double is laid out. -/
structure NumberLayout where
  tie : TieRule
  /-- Whether a number whose point stands at this place (after so many of its digits) is written
  without an exponent. -/
  positional : Int → Bool
  /-- What is written after the digits of a whole number. -/
  wholeSuffix : String

namespace NumberLayout

/-- The form of numbers in records. -/
def record : NumberLayout where
  tie := .toEven
  positional point := -5 < point && point ≤ 16
  wholeSuffix := ".0"

/-- The form of numbers in messages. -/
def message : NumberLayout where
  tie := .upward
  positional _ := true
  wholeSuffix := ""

/-- Digits with the point after the first `point` of them. -/
def positionalText (layout : NumberLayout) (digits : List Char) (point : Int) : String :=
  let zeros (n : Int) := List.replicate n.toNat '0'
  let whole := if point ≤ 0 then ['0'] else digits.take point.toNat ++ zeros (point - digits.length)
  let fraction := zeros (-point) ++ digits.drop point.toNat
  let suffix := if fraction.isEmpty then layout.wholeSuffix else "." ++ String.ofList fraction
  String.ofList whole ++ suffix

/-- One digit, the others after a point, and the power of ten with its sign. -/
def exponentText (digits : List Char) (point : Int) : String :=
  let rest := digits.drop 1
  let fraction := if rest.isEmpty then "" else "." ++ String.ofList rest
  let power := point - 1
  let sign := if power < 0 then "-" else "+"
  String.ofList (digits.take 1) ++ fraction ++ "e" ++ sign ++ toString power.natAbs

def decimalText (layout : NumberLayout) (d : Decimal) : String :=
  let digits := Nat.toDigits 10 d.digits
  let point := digits.length + d.power
  if layout.positional point then layout.positionalText digits point else exponentText digits point

/-- The text of a finite double. -/
def finiteText (layout : NumberLayout) (x : Float) : String :=
  let m := Binary64.magnitude x
  let text := if m.mantissa = 0 then "0" ++ layout.wholeSuffix
    else layout.decimalText (Decimal.shortest layout.tie m)
  if Binary64.isNegative x then "-" ++ text else text

end NumberLayout

/-- A double as it stands in messages. -/
def messageText (x : Float) : String :=
  if x.isNaN then "NaN"
  else if x.isInf then (if Binary64.isNegative x then "-inf" else "inf")
  else NumberLayout.message.finiteText x

end SlotMachine
