import SlotMachine.Database.Ledger
import SlotMachine.Store

/-!
# Rounds and balances in a database

What the store in memory does, as conversations with a database. Rounds and balances have a table
each.
-/

namespace SlotMachine

namespace Database

structure Repository where
  roundsTable : String
  balancesTable : String
  defaultBalance : Float

namespace Repository

variable (r : Repository)

/-! ### Rounds -/

/-- Saves a round under an id, which it gets. -/
def save (id : String) (round : Round) : Attempt Round := do
  Inquiry.put "failed to put item into game_rounds table" r.roundsTable (.ofRound round id)
  pure (round.withId id)

/-- The items of all pages from `start` on, after those `found` already. No more than `pages` pages
are asked for; nothing is told if there are more. -/
def scanFrom (filter : RoundFilter) (found : List (Item Float)) (start : PageKey) :
    (pages : Nat) → Attempt (Option (List (Item Float)))
  | 0 => pure none
  | pages + 1 => do
    let page ← Inquiry.scan r.roundsTable filter start
    let found := found ++ page.items
    if page.lastKey.isEmpty then pure (some found)
    else scanFrom filter found page.lastKey pages

/-- All items that pass a filter. -/
def scan (filter : RoundFilter) (pages : Nat) : Attempt (Option (List (Item Float))) :=
  r.scanFrom filter [] [] pages

/-- The statistics of one user, if they are within so many `pages`. -/
def sessionStats (userId : String) (since : Instant) (pages : Nat) :
    Attempt (Option (Option SessionStats)) := do
  let items ← r.scan { userId := some userId, since } pages
  pure (items.map fun items => SessionStats.ofPlays? (items.map Item.toPlay))

/-- The statistics of all users, if they are within so many `pages`. -/
def rollingStats (since : Instant) (pages : Nat) : Attempt (Option (Option RollingStats)) := do
  let items ← r.scan { userId := none, since } pages
  pure (items.map fun items => RollingStats.ofPlays? (items.map Item.toPlay))

/-! ### Balances -/

def ledger : Ledger Float where
  table := r.balancesTable
  defaultBalance := r.defaultBalance

/-- The balance of a user; a new user gets the default. -/
def getBalance (userId : String) (now : Instant) : Attempt Float := r.ledger.getBalance userId now

/-- Applies a bet and its payout to the balance of a user. -/
def updateBalance (userId : String) (bet payout : Float) (now : Instant) : Attempt Float :=
  r.ledger.updateBalance userId bet payout now

end Repository

end Database

end SlotMachine
