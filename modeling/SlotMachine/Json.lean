/-!
# JSON values

A value of a JSON text. Whole numbers and other numbers are told apart, as they are written apart.
The members of an object are a list; where an object is read from a text the list is sorted by key
and has each key once.
-/

namespace SlotMachine

inductive Json
  | null
  | bool (value : Bool)
  | int (value : Int)
  | float (value : Float)
  | string (value : String)
  | array (items : List Json)
  | object (members : List (String × Json))
  deriving Inhabited

namespace Json

/-- Puts a member into a list sorted by key, in the place of one with the same key. -/
def insertMember {α : Type} (key : String) (value : α) : List (String × α) → List (String × α)
  | [] => [(key, value)]
  | (k, v) :: rest =>
    if key < k then (key, value) :: (k, v) :: rest
    else if key = k then (key, value) :: rest
    else (k, v) :: insertMember key value rest

/-- The object that has these members; of members with one key the last counts. -/
def ofMembers (members : List (String × Json)) : Json :=
  object (members.foldl (fun sorted (key, value) => insertMember key value sorted) [])

/-- The member of an object with this key. -/
def get? (key : String) : Json → Option Json
  | object members => members.lookup key
  | _ => none

/-- The double nearest to a whole number of at most 64 bits. -/
def wholeToFloat (value : Int) : Float :=
  let size := value.natAbs.toUInt64.toFloat
  if value < 0 then -size else size

/-- A number as a double. -/
def number? : Json → Option Float
  | int value => some (wholeToFloat value)
  | float value => some value
  | _ => none

def bool? : Json → Option Bool
  | bool value => some value
  | _ => none

def isNull : Json → Bool
  | null => true
  | _ => false

end Json

end SlotMachine
