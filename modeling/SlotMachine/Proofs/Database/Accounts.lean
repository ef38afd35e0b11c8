import Mathlib.Order.Lattice
import SlotMachine.Proofs.Database.Settlements
import SlotMachine.Proofs.Dialogue.Only
import SlotMachine.Proofs.Store.Accounts

/-!
# Accounts in a database

Where all calls are made one after the other, a database with tables tells the same balances as the
store in memory, whatever is read, bet and paid out, if only numbers are exact.

The invariant is `Mirrors`: a user has an item exactly if he has an account, and the item holds what
the account does. A call is about one user and leaves the items of all others (`carry_of_ne`), so
that it keeps the invariant (`Mirrors.carry`).
-/

namespace SlotMachine

namespace Database

variable {N : Type}

/-! ### Requests about one user -/

/-- A request that changes the item of no other user. -/
def Request.About (userId : String) : Request N → Prop
  | put _ item => item.string? "user_id" = some userId
  | getBalance _ _ => True
  | addToBalance _ other _ _ _ => other = userId
  | setBalance _ other _ _ => other = userId
  | scan _ _ _ => True

namespace Tables

variable {s : Tables N} {table userId other : String}

lemma put_of_ne {item : Item N} {key : String × String} (h : key.2 ≠ userId) :
    s.put table userId item key = s key :=
  Function.update_of_ne (fun heq => h (congrArg Prod.snd heq)) _ _

lemma answer_of_ne [Add N] {request : Request N} {key : String × String}
    (hrequest : request.About userId) (h : key.2 ≠ userId) :
    (answer request s).2 key = s key := by
  cases request with
  | put table item =>
    rw [answer_put hrequest]
    exact put_of_ne h
  | getBalance table other => rfl
  | addToBalance table other default delta time =>
    obtain rfl : other = userId := hrequest
    cases hx : s.reckoned? table other default with
    | none => rw [answer_addToBalance_of_none hx]
    | some x =>
      rw [answer_addToBalance hx]
      exact put_of_ne h
  | setBalance table other balance time =>
    obtain rfl : other = userId := hrequest
    exact put_of_ne h
  | scan table filter start => rfl

end Tables

namespace Ledger

/-! ### Calls in a database -/

section

variable [Zero N] [Add N] [Sub N] [LE N] [DecidableLE N] (l : Ledger N)

/-- What a call says to the database, if it is made at the time `now`. -/
def conversation (now : Instant) : AccountCall N → Conversation N (Except Failure N)
  | .get userId => (l.getBalance userId now).run
  | .update userId bet payout => (l.updateBalance userId bet payout now).run

/-- Carries calls out, one after the other. -/
def carryAll (calls : List (Instant × AccountCall N)) :
    StateM (Tables N) (List (Except Failure N)) :=
  calls.mapM fun (now, c) => (l.conversation now c).run Tables.answer

lemma carryAll_cons (now : Instant) (c : AccountCall N) (calls : List (Instant × AccountCall N))
    (s : Tables N) : l.carryAll ((now, c) :: calls) s =
      let (reply, s) := (l.conversation now c).run Tables.answer s
      let (replies, s) := l.carryAll calls s
      (reply :: replies, s) := by
  unfold carryAll
  rw [List.mapM_cons]
  rfl

variable {l} {s : Tables N} {userId : String} {x bet payout : N} {now : Instant}

lemma conversation_get : l.conversation now (.get userId) =
    .ask (.getBalance l.table userId) fun
      | none => .done (.error ⟨["failed to read user balance"]⟩)
      | some (some item) => .done (.ok ((item.number? "balance").getD l.defaultBalance))
      | some none => .ask (.put l.table (l.newBalance userId now)) fun
        | none => .done (.error ⟨["failed to create user balance"]⟩)
        | some _ => .done (.ok l.defaultBalance) := by
  refine congrArg (Dialogue.ask _) (funext fun reply => ?_)
  match reply with
  | none => rfl
  | some none =>
    refine congrArg (Dialogue.ask _) (funext fun reply => ?_)
    cases reply with
    | none => rfl
    | some _ => rfl
  | some (some item) => rfl

lemma conversation_about (c : AccountCall N) :
    (l.conversation now c).Only (Request.About c.userId) := by
  cases c with
  | get userId =>
    rw [conversation_get]
    refine ⟨trivial, fun reply => ?_⟩
    match reply with
    | none => trivial
    | some none => exact ⟨rfl, fun | none => trivial | some _ => trivial⟩
    | some (some item) => trivial
  | update userId bet payout =>
    change (l.adding userId ⟨bet, payout, now, now⟩).Only _
    rw [adding_eq]
    refine ⟨rfl, fun reply => ?_⟩
    cases reply with
    | none => trivial
    | some attributes =>
      dsimp only
      split
      · trivial
      · rw [resetting_eq]
        exact ⟨rfl, fun | none => trivial | some _ => trivial⟩

/-- A call leaves the items of all other users. -/
lemma conversation_of_ne {c : AccountCall N} {key : String × String} (h : key.2 ≠ c.userId) :
    ((l.conversation now c).run Tables.answer s).2 key = s key :=
  (conversation_about c).view_eq (fun t => t key)
    (fun _ _ hrequest => Tables.answer_of_ne hrequest h) s

lemma run_get_of_none (h : s (l.table, userId) = none) :
    (l.conversation now (.get userId)).run Tables.answer s =
      (.ok l.defaultBalance, s.put l.table userId (l.newBalance userId now)) := by
  have hread : Tables.answer (.getBalance l.table userId) s = (some none, s) :=
    congrArg (fun item => (some item, s)) h
  have hput : Tables.answer (.put l.table (l.newBalance userId now)) s =
      (some (), s.put l.table userId (l.newBalance userId now)) := Tables.answer_put rfl
  rw [conversation_get]
  simp only [Dialogue.run, bind, StateT.bind, hread, hput]
  rfl

lemma run_get (h : l.Holds userId s x) :
    (l.conversation now (.get userId)).run Tables.answer s = (.ok x, s) := by
  obtain ⟨item, hitem⟩ := Option.isSome_iff_exists.1 h.isSome
  have hread : Tables.answer (.getBalance l.table userId) s = (some (some item), s) :=
    congrArg (fun item => (some item, s)) hitem
  have hx : item.number? "balance" = some x := by
    simpa only [Tables.balance?, hitem, Option.bind_some] using h.balance
  rw [conversation_get]
  simp only [Dialogue.run, bind, StateT.bind, hread, hx]
  rfl

lemma run_update (h : s.reckoned? l.table userId l.defaultBalance = some x) :
    ∃ s', (l.conversation now (.update userId bet payout)).run Tables.answer s =
        (.ok (l.after ⟨bet, payout, now, now⟩ x), s') ∧
      l.Holds userId s' (l.after ⟨bet, payout, now, now⟩ x) :=
  run_adding ⟨bet, payout, now, now⟩ h

end

/-! ### Tables beside accounts -/

/-- A table has an item for each account and for no other user, and the item holds what is in the
account. -/
structure Mirrors (l : Ledger N) (s : Tables N) (a : Accounts N) : Prop where
  default_eq : a.defaultBalance = l.defaultBalance
  absent : ∀ userId, a.balances.lookup userId = none → s (l.table, userId) = none
  holds : ∀ userId x, a.balances.lookup userId = some x → l.Holds userId s x

section

variable {l : Ledger N} {s s' : Tables N} {a : Accounts N} {userId : String} {x : N}

lemma mirrors_fresh : l.Mirrors (fun _ => none) (Accounts.fresh l.defaultBalance) where
  default_eq := rfl
  absent _ _ := rfl
  holds _ _ h := by cases h

/-- An update reckons with what the account holds, or with the default of a new one. -/
lemma Mirrors.reckoned (h : l.Mirrors s a) (userId : String) :
    s.reckoned? l.table userId l.defaultBalance =
      some ((a.balances.lookup userId).getD a.defaultBalance) := by
  cases hx : a.balances.lookup userId with
  | none =>
    rw [Tables.reckoned?_of_none (h.absent userId hx), Option.getD_none, h.default_eq]
  | some x => exact (h.holds userId x hx).reckoned

lemma Mirrors.balance_eq (h : l.Mirrors s a) (userId : String) :
    (s (l.table, userId)).map (·.number? "balance") =
      (a.balances.lookup userId).map some := by
  cases hx : a.balances.lookup userId with
  | none =>
    rw [h.absent userId hx]
    rfl
  | some x =>
    have hholds := h.holds userId x hx
    obtain ⟨item, hitem⟩ := Option.isSome_iff_exists.1 hholds.isSome
    have hbalance := hholds.balance
    rw [Tables.balance?, hitem, Option.bind_some] at hbalance
    rw [hitem, Option.map_some, hbalance]
    rfl

lemma Holds.congr (h : l.Holds userId s x) (hs : s' (l.table, userId) = s (l.table, userId)) :
    l.Holds userId s' x := by
  obtain ⟨hbalance, hreckoned, hsome⟩ := h
  rw [Tables.balance?, ← hs] at hbalance
  rw [Tables.reckoned?, Tables.item, ← hs] at hreckoned
  rw [← hs] at hsome
  exact ⟨hbalance, hreckoned, hsome⟩

end

variable [Zero N] [Add N] [Sub N] [LinearOrder N] {l : Ledger N} {s : Tables N} {a : Accounts N}

/-- Below zero and not below zero are all there is, so both start over for the same balances. -/
lemma after_eq_settledBalance (bet payout x : N) (now : Instant) :
    l.after ⟨bet, payout, now, now⟩ x =
      Accounts.settledBalance l.defaultBalance x bet payout := by
  change (if 0 ≤ x + (payout - bet) then _ else _) = if x + (payout - bet) < 0 then _ else _
  by_cases h : x + (payout - bet) < 0
  · rw [if_neg (not_le.2 h), if_pos h]
    rfl
  · rw [if_pos (not_lt.1 h), if_neg h]
    rfl

/-- A call tells what the account tells, and its user's item holds what his account then does. -/
lemma Mirrors.run_eq (h : l.Mirrors s a) (now : Instant) (c : AccountCall N) :
    ∃ s', (l.conversation now c).run Tables.answer s = (.ok (Accounts.answer c a).1, s') ∧
      l.Holds c.userId s' (Accounts.answer c a).1 := by
  cases c with
  | get userId =>
    cases hx : a.balances.lookup userId with
    | none =>
      have hreply : (Accounts.answer (.get userId) a).1 = l.defaultBalance :=
        (congrArg (·.getD a.defaultBalance) hx).trans h.default_eq
      rw [hreply, run_get_of_none (h.absent userId hx)]
      exact ⟨_, rfl, holds_put rfl⟩
    | some x =>
      have hreply : (Accounts.answer (.get userId) a).1 = x :=
        congrArg (·.getD a.defaultBalance) hx
      rw [hreply, run_get (h.holds userId x hx)]
      exact ⟨s, rfl, h.holds userId x hx⟩
  | update userId bet payout =>
    have hreply : (Accounts.answer (.update userId bet payout) a).1 =
        l.after ⟨bet, payout, now, now⟩ ((a.balances.lookup userId).getD a.defaultBalance) := by
      rw [after_eq_settledBalance, ← h.default_eq]
      rfl
    rw [hreply]
    exact run_update (h.reckoned userId)

/-- Each call keeps table and accounts alike. -/
lemma Mirrors.step (h : l.Mirrors s a) (now : Instant) (c : AccountCall N) :
    ∃ s', (l.conversation now c).run Tables.answer s = (.ok (Accounts.answer c a).1, s') ∧
      l.Mirrors s' (Accounts.answer c a).2 := by
  obtain ⟨s', hrun, hholds⟩ := h.run_eq now c
  have hothers (userId : String) (hne : userId ≠ c.userId) :
      s' (l.table, userId) = s (l.table, userId) := by
    have hview : ((l.conversation now c).run Tables.answer s).2 (l.table, userId) =
        s (l.table, userId) := conversation_of_ne hne
    rwa [hrun] at hview
  refine ⟨s', hrun, ?_⟩
  constructor
  · rw [Accounts.defaultBalance_answer, h.default_eq]
  · intro userId hnone
    rw [Accounts.lookup_answer] at hnone
    by_cases hne : userId = c.userId
    · rw [if_pos hne] at hnone
      cases hnone
    · rw [if_neg hne] at hnone
      rw [hothers userId hne]
      exact h.absent userId hnone
  · intro userId x hsome
    rw [Accounts.lookup_answer] at hsome
    by_cases hne : userId = c.userId
    · rw [if_pos hne] at hsome
      obtain rfl := Option.some.inj hsome
      rw [hne]
      exact hholds
    · rw [if_neg hne] at hsome
      exact (h.holds userId x hsome).congr (hothers userId hne)

lemma Mirrors.carryAll (h : l.Mirrors s a) (calls : List (Instant × AccountCall N)) :
    ∃ s', l.carryAll calls s = ((Accounts.answerAll (calls.map (·.2)) a).1.map .ok, s') ∧
      l.Mirrors s' (Accounts.answerAll (calls.map (·.2)) a).2 := by
  induction calls generalizing s a with
  | nil => exact ⟨s, rfl, h⟩
  | cons call calls ih =>
    obtain ⟨now, c⟩ := call
    obtain ⟨s₁, hrun, h₁⟩ := h.step now c
    obtain ⟨s₂, hrest, h₂⟩ := ih h₁
    refine ⟨s₂, ?_, ?_⟩
    · rw [carryAll_cons, hrun]
      dsimp only
      rw [hrest, List.map_cons, Accounts.answerAll_cons]
      rfl
    · rw [List.map_cons, Accounts.answerAll_cons]
      exact h₂

/-! ### The main result -/

/-- Calls that are made one after the other are told by a database with empty tables what they are
told by accounts that nobody has used, and no call fails. Afterwards a user has an item if he has an
account, with the same balance. In doubles, the accounts are those of the store in memory. -/
theorem carryAll_eq_answerAll (l : Ledger N) (calls : List (Instant × AccountCall N)) :
    let told := l.carryAll calls fun _ => none
    let kept := Accounts.answerAll (calls.map (·.2)) (.fresh l.defaultBalance)
    told.1 = kept.1.map .ok ∧
    (∀ userId, (told.2 (l.table, userId)).map (·.number? "balance") =
      (kept.2.balances.lookup userId).map some) ∧
    ∀ (c : AccountCall Float) (s : Store),
      Accounts.answer c (.ofStore s) = Prod.map id .ofStore (Store.answer c.toBalanceCall s) := by
  intro told kept
  obtain ⟨s, hrun, h⟩ := mirrors_fresh.carryAll calls
  have htold : told = (kept.1.map .ok, s) := hrun
  refine ⟨?_, ?_, Accounts.answer_ofStore⟩
  · rw [htold]
  · rw [htold]
    exact h.balance_eq

end Ledger

end Database

end SlotMachine
