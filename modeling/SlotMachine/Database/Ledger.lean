import SlotMachine.Database.Inquiry

/-!
# Balances in a database

A balance that is not there is created when it is read. An update is one request; where the balance
is missing afterwards or below zero, a second request sets it anew.
-/

namespace SlotMachine

namespace Database

/-- A table of balances. -/
structure Ledger (N : Type) where
  table : String
  defaultBalance : N

namespace Ledger

variable {N : Type} (l : Ledger N)

/-- The item that a new user's balance starts with. -/
def newBalance (userId : String) (now : Instant) : Item N := [
  ("user_id", .string userId), ("balance", .number l.defaultBalance),
  ("created_at", .string now.microText)]

/-- The balance of a user; a new user gets the default. -/
def getBalance (userId : String) (now : Instant) : Inquiry N N := do
  match ← Inquiry.getBalance l.table userId with
  | some item => pure ((item.number? "balance").getD l.defaultBalance)
  | none =>
    Inquiry.put "failed to create user balance" l.table (l.newBalance userId now)
    pure l.defaultBalance

/-- Applies a bet and its payout to the balance of a user. -/
def updateBalance [Zero N] [Add N] [Sub N] [LE N] [DecidableLE N] (userId : String)
    (bet payout : N) (now : Instant) : Inquiry N N := do
  let attributes ←
    Inquiry.addToBalance l.table userId l.defaultBalance (payout - bet) now
  match (attributes.bind (·.number? "balance")).filter (0 ≤ ·) with
  | some balance => pure balance
  | none =>
    let balance := l.defaultBalance - bet + payout
    Inquiry.setBalance l.table userId balance now
    pure balance

end Ledger

end Database

end SlotMachine
