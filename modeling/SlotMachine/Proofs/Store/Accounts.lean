import Mathlib.Order.Defs.LinearOrder
import SlotMachine.Proofs.Store.Balances

/-!
# Accounts

The balances of the store, in numbers of any type: so it can be told what the store would do if its
numbers were exact. In doubles these are the balances of the store itself (`answer_ofStore`).
-/

namespace SlotMachine

/-- The balance of a new user, and those of all others. -/
structure Accounts (N : Type) where
  defaultBalance : N
  balances : List (String × N) := []

/-- What is asked of accounts. -/
inductive AccountCall (N : Type)
  | get (userId : String)
  | update (userId : String) (bet payout : N)

namespace AccountCall

def userId {N : Type} : AccountCall N → String
  | get userId => userId
  | update userId _ _ => userId

/-- What is so asked of the store. -/
def toBalanceCall : AccountCall Float → BalanceCall
  | get userId => .get userId
  | update userId bet payout => .update userId bet payout

end AccountCall

namespace Accounts

section

variable {N : Type} [Zero N] [Add N] [Sub N] [LT N] [DecidableLT N]

def fresh (default : N) : Accounts N where
  defaultBalance := default

def settledBalance (default balance bet payout : N) : N :=
  let next := balance + (payout - bet)
  if next < 0 then default - bet + payout else next

/-- The balance of a user, with which he also has an entry. -/
def answer : AccountCall N → StateM (Accounts N) N
  | .get userId => fun a =>
    ((a.balances.lookup userId).getD a.defaultBalance,
      { a with balances := adjust userId a.defaultBalance id a.balances })
  | .update userId bet payout => fun a =>
    let settled (balance : N) := settledBalance a.defaultBalance balance bet payout
    (settled ((a.balances.lookup userId).getD a.defaultBalance),
      { a with balances := adjust userId a.defaultBalance settled a.balances })

/-- Answers calls, one after the other. -/
def answerAll (calls : List (AccountCall N)) : StateM (Accounts N) (List N) :=
  calls.mapM answer

variable {a : Accounts N} {c : AccountCall N} {userId : String}

lemma defaultBalance_answer : (answer c a).2.defaultBalance = a.defaultBalance := by
  cases c with
  | get userId => rfl
  | update userId bet payout => rfl

/-- The reply is the balance that the user has afterwards. -/
lemma lookup_answer : (answer c a).2.balances.lookup userId =
    if userId = c.userId then some (answer c a).1 else a.balances.lookup userId := by
  cases c with
  | get other => exact lookup_adjust other userId a.defaultBalance id a.balances
  | update other bet payout => exact lookup_adjust other userId a.defaultBalance _ a.balances

lemma answerAll_cons (c : AccountCall N) (calls : List (AccountCall N)) (a : Accounts N) :
    answerAll (c :: calls) a =
      let (reply, a) := answer c a
      let (replies, a) := answerAll calls a
      (reply :: replies, a) := by
  unfold answerAll
  rw [List.mapM_cons]
  rfl

end

/-! ### The accounts of the store -/

def ofStore (s : Store) : Accounts Float where
  defaultBalance := s.defaultBalance
  balances := s.balances

lemma answer_ofStore (c : AccountCall Float) (s : Store) :
    answer c (ofStore s) = Prod.map id ofStore (Store.answer c.toBalanceCall s) := by
  cases c with
  | get userId => rfl
  | update userId bet payout => rfl

end Accounts

end SlotMachine
