import SlotMachine.Outcome
import SlotMachine.Decimal.Text

/-!
# Bets and payouts

A bet is a finite amount that is not negative. A win pays the bet times the multiplier of the
outcome, a loss pays nothing.
-/

namespace SlotMachine

/-- Why a request is refused before anything is drawn. -/
inductive RequestError
  | invalidBet (bet : Float)
  | missingUser

namespace RequestError

def message : RequestError → String
  | invalidBet bet => s!"bet must be a non-negative number, got {messageText bet}"
  | missingUser => "user_id is required"

end RequestError

/-- A bet that may be placed, or why not. -/
def checkBet (bet : Float) : Except RequestError Float :=
  if bet.isFinite && 0.0 ≤ bet then .ok bet else .error (.invalidBet bet)

/-- What a spin pays and by how much it changes the balance. -/
structure Payout where
  amount : Float
  balanceChange : Float

namespace Payout

def amountOf (bet : Float) (outcome : Outcome) : Float :=
  if outcome.win then bet * outcome.multiplier.toFloat else 0.0

def ofBet (bet : Float) (outcome : Outcome) : Except RequestError Payout := do
  let bet ← checkBet bet
  let amount := amountOf bet outcome
  pure { amount, balanceChange := amount - bet }

end Payout

end SlotMachine
