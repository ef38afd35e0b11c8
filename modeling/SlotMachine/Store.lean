import SlotMachine.Entries
import SlotMachine.Stats

/-!
# The store in memory

Rounds in the order in which they were saved, and a balance for each user. A round is kept for as
long as the widest window of statistics can see it: what has expired is dropped from the front
whenever a round is saved, and a round that has expired already is not kept at all.
-/

namespace SlotMachine

/-- Statistics of one user look so many hours back. -/
def sessionHours : Nat := 1

/-- Statistics of all users look so many hours back. -/
def rollingHours : Nat := 24

/-- A window that begins before the first instant there is. -/
inductive WindowError
  | beforeTime
  deriving DecidableEq, Repr

def WindowError.message : WindowError → String
  | beforeTime => "\x60DateTime - TimeDelta\x60 overflowed"

/-- The start of a window of so many hours that ends now. -/
def windowStart (now : Instant) (hours : Nat) : Except WindowError Instant :=
  match now.hoursBefore? hours with
  | some start => .ok start
  | none => .error .beforeTime

structure Store where
  defaultBalance : Float
  rounds : List Round := []
  balances : List (String × Float) := []

namespace Store

variable (s : Store)

/-! ### Rounds -/

/-- Drops the rounds before `cutoff` at the front, and appends the new one unless it is before it.
-/
def keep (cutoff : Instant) (round : Round) : Store :=
  let rounds := s.rounds.dropWhile (·.time.isBefore cutoff)
  { s with rounds := if round.time.isBefore cutoff then rounds else rounds ++ [round] }

/-- Saves a round under an id, which it gets. -/
def save (now : Instant) (id : String) (round : Round) : Except WindowError (Round × Store) := do
  let cutoff ← windowStart now rollingHours
  let round := round.withId id
  pure (round, s.keep cutoff round)

/-- The rounds since an instant. -/
def roundsSince (since : Instant) : List Round :=
  s.rounds.filter (!·.time.isBefore since)

def sessionStats (now : Instant) (userId : String) (hours : Nat) :
    Except WindowError (Option SessionStats) := do
  let since ← windowStart now hours
  let rounds := (s.roundsSince since).filter (·.userId == userId)
  pure (SessionStats.ofPlays? (rounds.map Play.ofRound))

def rollingStats (now : Instant) (hours : Nat) : Except WindowError (Option RollingStats) := do
  let since ← windowStart now hours
  pure (RollingStats.ofPlays? ((s.roundsSince since).map Play.ofRound))

/-! ### Balances -/

/-- The balance after a bet and its payout. Where it would be below zero it starts over from the
default. -/
def settledBalance (default balance bet payout : Float) : Float :=
  let next := balance + (payout - bet)
  if next < 0.0 then default - bet + payout else next

def balance (userId : String) : Float := (s.balances.lookup userId).getD s.defaultBalance

/-- The balance of a user; a new user gets the default. -/
def getBalance (userId : String) : Float × Store :=
  (s.balance userId, { s with balances := adjust userId s.defaultBalance id s.balances })

/-- Applies a bet and its payout to the balance of a user. -/
def updateBalance (userId : String) (bet payout : Float) : Float × Store :=
  let settled (balance : Float) := settledBalance s.defaultBalance balance bet payout
  (settled (s.balance userId),
    { s with balances := adjust userId s.defaultBalance settled s.balances })

end Store

end SlotMachine
