import SlotMachine.Dialogue
import SlotMachine.Messages.Round

/-!
# Collaborators

The service keeps its rounds, balances, events and wagers with collaborators. These are the calls by
which it asks them, and what they may reply to each.
-/

namespace SlotMachine

/-- Why a collaborator did not do what it was asked; the outermost reason comes first. -/
structure Failure where
  reasons : List String
  deriving DecidableEq, Repr

def Failure.message (f : Failure) : String := String.intercalate ": " f.reasons

/-- How a wagered spin ended. -/
inductive WagerResult
  | win
  | lose
  deriving DecidableEq, Repr

namespace WagerResult

def key : WagerResult → String
  | win => "win"
  | lose => "lose"

def ofWin (win : Bool) : WagerResult := if win then .win else .lose

end WagerResult

structure PlacedWager where
  id : Option String
  progress : Option Json

inductive Call
  | save (round : Round)
  | publish (event : RoundEvent)
  | sessionStats (userId : String) (hours : Nat)
  | rollingStats (hours : Nat)
  | getBalance (userId : String)
  | updateBalance (userId : String) (bet payout : Float)
  | validateWager (userId : String) (amount : Float) (gameId : String)
  | placeWager (validation : Json) (result : WagerResult) (payout : Float)

namespace Call

/-- What a call asks for. -/
abbrev Answer : Call → Type
  | save _ => Round
  | publish _ => Unit
  | sessionStats _ _ => Option SessionStats
  | rollingStats _ => Option RollingStats
  | getBalance _ => Float
  | updateBalance _ _ _ => Float
  | validateWager _ _ _ => Option Json
  | placeWager _ _ _ => Option PlacedWager

abbrev Reply (call : Call) : Type := Except Failure call.Answer

end Call

end SlotMachine
