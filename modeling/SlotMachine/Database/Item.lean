import SlotMachine.Json.Text
import SlotMachine.Messages.Round

/-!
# Items of a table

An item of a table has attributes by name. A round is stored as one item, from which statistics need
no more than the user, the bet and the payout.

The type `N` of the numbers is left open wherever nothing is written or read. What is sent has
numbers of type `Float`.
-/

namespace SlotMachine

namespace Database

inductive Attribute (N : Type)
  | string (text : String)
  | number (value : N)
  | flag (value : Bool)
  /-- A value of another kind, or a number that cannot be read. -/
  | other

abbrev Item (N : Type) := List (String × Attribute N)

namespace Attribute

def toJson : Attribute Float → Json
  | string text => .object [("S", .string text)]
  | number value => .object [("N", .string (messageText value))]
  | flag value => .object [("BOOL", .bool value)]
  | other => .object [("NULL", .bool true)]

end Attribute

namespace Item

variable {N : Type}

def toJson (item : Item Float) : Json := .object (item.map fun (name, a) => (name, a.toJson))

def number? (item : Item N) (name : String) : Option N :=
  match item.lookup name with
  | some (.number value) => some value
  | _ => none

def string? (item : Item N) (name : String) : Option String :=
  match item.lookup name with
  | some (.string text) => some text
  | _ => none

/-- The item of a round under an id. -/
def ofRound (round : Round) (id : String) : Item Float := [
  ("id", .string id),
  ("user_id", .string round.userId),
  ("bet", .number round.bet),
  ("symbols", .string round.outcome.reels.toJson.text),
  ("win", .flag round.outcome.win),
  ("multiplier", .number round.outcome.multiplier.toFloat),
  ("payout", .number round.payout),
  ("timestamp", .string round.time.microText)]

/-- What an item counts for in statistics; an amount that is missing counts as zero. -/
def toPlay (item : Item Float) : Play where
  userId := item.string? "user_id"
  bet := (item.number? "bet").getD 0.0
  payout := (item.number? "payout").getD 0.0

end Item

end Database

end SlotMachine
