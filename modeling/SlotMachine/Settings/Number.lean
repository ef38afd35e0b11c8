import SlotMachine.Binary64

/-!
# Numbers in settings

Words are written in decimal digits, perhaps after a plus sign. Other numbers may have a sign, a
fraction and an exponent, and may be infinite or not a number; they become the nearest double.
-/

namespace SlotMachine

/-- What is wrong with a number. -/
inductive NumberError
  | empty
  | invalidDigit
  | tooLarge
  | invalidFloat
  deriving DecidableEq, Repr

namespace NumberError

def message : NumberError → String
  | empty => "cannot parse integer from empty string"
  | invalidDigit => "invalid digit found in string"
  | tooLarge => "number too large to fit in target type"
  | invalidFloat => "invalid float literal"

end NumberError

namespace Number

def digitValue (c : Char) : Nat := c.toNat - '0'.toNat

/-- Adds digits to a number below `limit`, up to the first that is none or makes it too large. -/
def appendDigits (limit n : Nat) : List Char → Except NumberError Nat
  | [] => .ok n
  | c :: rest =>
    if c.isDigit then
      let next := 10 * n + digitValue c
      if next < limit then appendDigits limit next rest else .error .tooLarge
    else .error .invalidDigit

/-- A word below `limit`. -/
def word (limit : Nat) (text : String) : Except NumberError Nat :=
  match text.toList with
  | [] => .error .empty
  | ['+'] => .error .invalidDigit
  | '+' :: digits => appendDigits limit 0 digits
  | digits => appendDigits limit 0 digits

/-! ### Doubles -/

def ofDigits (digits : List Char) : Nat :=
  digits.foldl (fun n c => 10 * n + digitValue c) 0

/-- A sign at the start of a text; whether it is a minus, and what follows. -/
def takeSign : List Char → Bool × List Char
  | '-' :: rest => (true, rest)
  | '+' :: rest => (false, rest)
  | cs => (false, cs)

/-- An exponent: nothing, or a letter and a number with a digit at least. -/
def exponent? : List Char → Option Int
  | [] => some 0
  | c :: rest =>
    if c = 'e' ∨ c = 'E' then
      let (negative, digits) := takeSign rest
      if digits.isEmpty || !digits.all Char.isDigit then none
      else some (if negative then -(ofDigits digits : Int) else ofDigits digits)
    else none

/-- The digits after a point, if there is one, and what follows. -/
def takeFraction : List Char → List Char × List Char
  | '.' :: rest => (rest.takeWhile Char.isDigit, rest.dropWhile Char.isDigit)
  | cs => ([], cs)

/-- A number in decimal digits. -/
def decimal? (negative : Bool) (cs : List Char) : Option Float := do
  let whole := cs.takeWhile Char.isDigit
  let (fraction, rest) := takeFraction (cs.dropWhile Char.isDigit)
  let power ← exponent? rest
  if whole.isEmpty && fraction.isEmpty then none
  else some (Binary64.ofDecimal negative (ofDigits (whole ++ fraction)) (power - fraction.length))

/-- A double. -/
def float (text : String) : Except NumberError Float :=
  let (negative, cs) := takeSign text.toList
  let word := String.ofList (cs.map Char.toLower)
  if word = "inf" ∨ word = "infinity" then .ok (if negative then -(1.0 / 0.0) else 1.0 / 0.0)
  else if word = "nan" then .ok (0.0 / 0.0)
  else
    match decimal? negative cs with
    | some x => .ok x
    | none => .error .invalidFloat

end Number

end SlotMachine
