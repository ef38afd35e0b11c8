import SlotMachine.Instant.Text
import SlotMachine.Payout
import SlotMachine.Spin

/-!
# Rounds

A round is one spin with its price: who bet how much, what came up, what it paid, and when. Playing
a round checks the request first, so that nothing is drawn for one that is refused.
-/

namespace SlotMachine

/-- A request for a spin. -/
structure SpinRequest where
  userId : String
  bet : Float
  strategy : Strategy

structure Round where
  /-- Given when the round is stored. -/
  id : Option String
  userId : String
  bet : Float
  outcome : Outcome
  payout : Float
  time : Instant

namespace Round

def balanceChange (r : Round) : Float := r.payout - r.bet

def withId (r : Round) (id : String) : Round := { r with id := some id }

end Round

/-- Why a request gives no round. -/
inductive PlayError
  | refused (reason : RequestError)
  | interrupted (reason : Interruption)

namespace SpinRequest

/-- The user id without blanks around it and the bet, or the first reason against the request. -/
def check (r : SpinRequest) : Except RequestError (String × Float) := do
  let userId := trim r.userId
  if userId.isEmpty then throw .missingUser
  let bet ← checkBet r.bet
  pure (userId, bet)

end SpinRequest

namespace Engine

/-- Plays a round at the time `now`. -/
def playRound (e : Engine) (request : SpinRequest) (now : Instant) :
    ExceptT PlayError Draw Round := do
  let (userId, bet) ← ExceptT.mk (pure (request.check.mapError .refused))
  let outcome ← (e.spin request.strategy).adapt .interrupted
  let payout ← ExceptT.mk (pure ((Payout.ofBet bet outcome).mapError .refused))
  pure { id := none, userId, bet, outcome, payout := payout.amount, time := now }

end Engine

end SlotMachine
