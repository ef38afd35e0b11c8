import Mathlib.Data.List.Induction
import SlotMachine.Proofs.Dialogue.Turns
import SlotMachine.Store

/-!
# Balances in memory

What the store tells of a user's balance, while any number of clients read and update the balances
of any users at the same time. A read adds an entry for a new user, and an update that would go
below zero starts over from the default; still every user might as well have a store for himself, in
which nobody reads.

The invariant is `Tracks`: what the store holds for each user is what his updates alone would have
made of an empty store, and what the last of them was told. One call keeps it (`Tracks.step`), and a
transcript is one call after the other.
-/

namespace SlotMachine

open Dialogue (Transcript)

/-- What is asked of balances. -/
inductive BalanceCall
  | get (userId : String)
  | update (userId : String) (bet payout : Float)

namespace BalanceCall

/-- Either call is told a balance. -/
abbrev Reply (_ : BalanceCall) : Type := Float

def userId : BalanceCall → String
  | get userId => userId
  | update userId _ _ => userId

def isUpdate : BalanceCall → Bool
  | get _ => false
  | update _ _ _ => true

end BalanceCall

namespace Store

/-- A store that nobody has used. -/
def fresh (default : Float) : Store where
  defaultBalance := default

/-! ### Reading and updating -/

section

variable {s : Store} {userId other : String} {bet payout : Float}

lemma lookup_getBalance : (s.getBalance other).2.balances.lookup userId =
    if userId = other then some (s.balance other) else s.balances.lookup userId := by
  simp only [getBalance, lookup_adjust, id_eq]
  rfl

lemma lookup_updateBalance : (s.updateBalance other bet payout).2.balances.lookup userId =
    if userId = other then
      some (settledBalance s.defaultBalance (s.balance other) bet payout)
    else s.balances.lookup userId := by
  simp only [updateBalance, lookup_adjust]
  rfl

/-- Reading leaves every balance as it is. -/
lemma balance_getBalance : (s.getBalance other).2.balance userId = s.balance userId := by
  unfold balance
  rw [lookup_getBalance]
  by_cases h : userId = other
  · subst h
    simp only [if_true, Option.getD_some]
    rfl
  · simp only [h, if_false]
    rfl

/-- An update settles the balance of its user and leaves all others as they are. -/
lemma balance_updateBalance : (s.updateBalance other bet payout).2.balance userId =
    if userId = other then settledBalance s.defaultBalance (s.balance other) bet payout
    else s.balance userId := by
  unfold balance
  rw [lookup_updateBalance]
  by_cases h : userId = other
  · simp only [h, if_true, Option.getD_some]
    rfl
  · simp only [h, if_false]
    rfl

end

/-! ### Calls one after the other -/

def answer : (c : BalanceCall) → StateM Store c.Reply
  | .get userId => fun s => s.getBalance userId
  | .update userId bet payout => fun s => s.updateBalance userId bet payout

/-- The store that calls leave, one after the other. -/
def afterCalls (s : Store) (calls : List BalanceCall) : Store :=
  calls.foldl (fun s c => (answer c s).2) s

lemma afterCalls_append (s : Store) (calls : List BalanceCall) (c : BalanceCall) :
    s.afterCalls (calls ++ [c]) = (answer c (s.afterCalls calls)).2 := by
  simp only [afterCalls, List.foldl_append, List.foldl_cons, List.foldl_nil]

lemma defaultBalance_answer (s : Store) (c : BalanceCall) :
    (answer c s).2.defaultBalance = s.defaultBalance := by
  cases c with
  | get userId => rfl
  | update userId bet payout => rfl

lemma defaultBalance_afterCalls (s : Store) (calls : List BalanceCall) :
    (s.afterCalls calls).defaultBalance = s.defaultBalance := by
  induction calls using List.reverseRecOn with
  | nil => rfl
  | append_singleton calls c ih => rw [afterCalls_append, defaultBalance_answer, ih]

/-- A reply depends on nothing but the default and the balance of the user. -/
lemma answer_congr {s t : Store} {c : BalanceCall} (hdefault : s.defaultBalance = t.defaultBalance)
    (hbalance : s.balance c.userId = t.balance c.userId) : (answer c s).1 = (answer c t).1 := by
  cases c with
  | get userId => exact hbalance
  | update userId bet payout =>
    change settledBalance _ _ bet payout = settledBalance _ _ bet payout
    rw [hdefault]
    exact congrArg (settledBalance _ · bet payout) hbalance

lemma balance_answer_of_update {s : Store} {c : BalanceCall} (h : c.isUpdate = true) :
    (answer c s).2.balance c.userId = (answer c s).1 := by
  cases c with
  | get userId => cases h
  | update userId bet payout => exact balance_updateBalance.trans (if_pos rfl)

lemma balance_answer_of_not {s : Store} {c : BalanceCall} {userId : String}
    (h : ¬(c.isUpdate = true ∧ c.userId = userId)) :
    (answer c s).2.balance userId = s.balance userId := by
  cases c with
  | get other => exact balance_getBalance
  | update other bet payout =>
    have hne : userId ≠ other := fun heq => h ⟨rfl, heq.symm⟩
    exact balance_updateBalance.trans (if_neg hne)

/-! ### What a user's updates make -/

/-- The updates of a user among what has been asked. -/
def updatesOf (userId : String) (log : Transcript BalanceCall.Reply) : List BalanceCall :=
  (log.map (·.1)).filter fun c => c.isUpdate ∧ c.userId = userId

/-- What the last update of a user was told, and the default before there is one. -/
def lastTold (default : Float) (userId : String) (log : Transcript BalanceCall.Reply) : Float :=
  log.foldl (fun balance (entry : (c : BalanceCall) × c.Reply) =>
    if entry.1.isUpdate ∧ entry.1.userId = userId then entry.2 else balance) default

section

variable {default : Float} {userId : String} {log : Transcript BalanceCall.Reply}
  {c : BalanceCall} {reply : Float}

lemma updatesOf_append_of_update (h : c.isUpdate = true ∧ c.userId = userId) :
    updatesOf userId (log ++ [⟨c, reply⟩]) = updatesOf userId log ++ [c] := by
  simp [updatesOf, h]

lemma updatesOf_append_of_not (h : ¬(c.isUpdate = true ∧ c.userId = userId)) :
    updatesOf userId (log ++ [⟨c, reply⟩]) = updatesOf userId log := by
  simp [updatesOf, h]

lemma lastTold_append : lastTold default userId (log ++ [⟨c, reply⟩]) =
    if c.isUpdate ∧ c.userId = userId then reply else lastTold default userId log := by
  simp [lastTold]

end

/-- What the store holds is what the updates of each user alone would have made, and what the last
of them was told. -/
structure Tracks (default : Float) (log : Transcript BalanceCall.Reply) (s : Store) : Prop where
  default_eq : s.defaultBalance = default
  alone : ∀ userId,
    s.balance userId = ((fresh default).afterCalls (updatesOf userId log)).balance userId
  last : ∀ userId, s.balance userId = lastTold default userId log

section

variable {default : Float} {log : Transcript BalanceCall.Reply} {s : Store}

lemma Tracks.reply_eq (h : Tracks default log s) (c : BalanceCall) :
    (answer c s).1 = (answer c ((fresh default).afterCalls (updatesOf c.userId log))).1 := by
  refine answer_congr ?_ (h.alone c.userId)
  rw [h.default_eq, defaultBalance_afterCalls]
  rfl

lemma Tracks.step (h : Tracks default log s) (c : BalanceCall) :
    Tracks default (log ++ [⟨c, (answer c s).1⟩]) (answer c s).2 where
  default_eq := (defaultBalance_answer s c).trans h.default_eq
  alone userId := by
    by_cases hc : c.isUpdate = true ∧ c.userId = userId
    · obtain ⟨hupdate, rfl⟩ := hc
      rw [updatesOf_append_of_update ⟨hupdate, rfl⟩, afterCalls_append,
        balance_answer_of_update hupdate, balance_answer_of_update hupdate]
      exact h.reply_eq c
    · rw [updatesOf_append_of_not hc, balance_answer_of_not hc]
      exact h.alone userId
  last userId := by
    rw [lastTold_append]
    by_cases hc : c.isUpdate = true ∧ c.userId = userId
    · rw [if_pos hc, ← hc.2]
      exact balance_answer_of_update hc.1
    · rw [if_neg hc, balance_answer_of_not hc]
      exact h.last userId

lemma tracks_of_answered (h : Dialogue.Answered answer (fresh default) log s) :
    Tracks default log s := by
  induction log using List.reverseRecOn generalizing s with
  | nil =>
    obtain rfl := Dialogue.answered_nil.1 h
    exact ⟨rfl, fun _ => rfl, fun _ => rfl⟩
  | append_singleton log entry ih =>
    obtain ⟨c, reply⟩ := entry
    obtain ⟨t, hlog, hentry⟩ := Dialogue.answered_append.1 h
    obtain ⟨rfl, hs⟩ := Dialogue.answered_cons.1 hentry
    obtain rfl := Dialogue.answered_nil.1 hs
    exact (ih hlog).step c

/-- What a call is told, by what its user's last update was told. -/
lemma Tracks.reply_eq_lastTold (h : Tracks default log s) (c : BalanceCall) :
    (answer c s).1 = match c with
      | .get userId => lastTold default userId log
      | .update userId bet payout =>
        settledBalance default (lastTold default userId log) bet payout := by
  cases c with
  | get userId => exact h.last userId
  | update userId bet payout =>
    change settledBalance s.defaultBalance (s.balance userId) bet payout = _
    rw [h.default_eq, h.last userId]

end

/-! ### The main result -/

variable {ι : Type} [DecidableEq ι] {α : ι → Type}

/-- Whoever calls, and in whatever order the calls are made: a call is told what it would be told by
a store on which before it nothing but the updates of its user had been made. A read is told what
the last update of the user was told, and an update adds to that, or starts over. -/
theorem replies_of_turns (default : Float)
    (clients : (i : ι) → Dialogue BalanceCall.Reply (α i)) (schedule : List ι) :
    let said := Dialogue.turns answer schedule clients (fresh default)
    (∀ before c reply after, said.1 = before ++ ⟨c, reply⟩ :: after →
      reply = (answer c ((fresh default).afterCalls (updatesOf c.userId before))).1 ∧
      match c with
      | .get userId => reply = lastTold default userId before
      | .update userId bet payout =>
        let next := lastTold default userId before + (payout - bet)
        (¬next < 0.0 → reply = next) ∧ (next < 0.0 → reply = default - bet + payout)) ∧
    ∀ userId,
      said.2.balance userId =
        ((fresh default).afterCalls (updatesOf userId said.1)).balance userId ∧
      said.2.balance userId = lastTold default userId said.1 := by
  intro said
  have hsaid : Dialogue.Answered answer (fresh default) said.1 said.2 :=
    Dialogue.answered_turns schedule clients (fresh default)
  constructor
  · intro before c reply after hlog
    rw [hlog] at hsaid
    obtain ⟨s, hbefore, hrest⟩ := Dialogue.answered_append.1 hsaid
    obtain ⟨rfl, -⟩ := Dialogue.answered_cons.1 hrest
    have htracks := tracks_of_answered hbefore
    refine ⟨htracks.reply_eq c, ?_⟩
    have hreply := htracks.reply_eq_lastTold c
    cases c with
    | get userId => exact hreply
    | update userId bet payout =>
      rw [hreply]
      exact ⟨fun h => if_neg h, fun h => if_pos h⟩
  · intro userId
    have htracks := tracks_of_answered hsaid
    exact ⟨htracks.alone userId, htracks.last userId⟩

/-- One client plays for Alice, one bets for Bob what he has read of hers, and one only reads. -/
def rivals : Fin 3 → Dialogue BalanceCall.Reply Unit
  | 0 => .ask (.update "alice" 90.0 0.0) fun _ => .ask (.update "alice" 50.0 0.0) fun _ => .done ()
  | 1 => .ask (.get "alice") fun balance => .ask (.update "bob" balance 0.0) fun _ => .done ()
  | 2 => .ask (.get "carol") fun _ => .done ()

theorem replies_of_turns_rivals :
    let said := Dialogue.turns answer [1, 0, 2, 1, 0, 1] rivals (fresh 100.0)
    let before : Transcript BalanceCall.Reply := [⟨.get "alice", 100.0⟩,
      ⟨.update "alice" 90.0 0.0, 10.0⟩, ⟨.get "carol", 100.0⟩, ⟨.update "bob" 100.0 0.0, 0.0⟩]
    said.1 = before ++ [⟨.update "alice" 50.0 0.0, 50.0⟩] ∧
    lastTold 100.0 "alice" before + (0.0 - 50.0) < 0.0 ∧
    (50.0 : Float) = 100.0 - 50.0 + 0.0 ∧
    (50.0 : Float) = (answer (.update "alice" 50.0 0.0)
      ((fresh 100.0).afterCalls [.update "alice" 90.0 0.0])).1 := by
  intro said before
  have hlog : said.1 = before ++ [⟨.update "alice" 50.0 0.0, 50.0⟩] := rfl
  have hneg : lastTold 100.0 "alice" before + (0.0 - 50.0) < 0.0 := by decide +kernel
  have hreply := (replies_of_turns 100.0 rivals [1, 0, 2, 1, 0, 1]).1 before _ _ [] hlog
  exact ⟨hlog, hneg, hreply.2.2 hneg, hreply.1⟩

end Store

end SlotMachine
