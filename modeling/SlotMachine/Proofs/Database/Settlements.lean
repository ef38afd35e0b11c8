import Mathlib.Tactic.Common
import SlotMachine.Database.Repository
import SlotMachine.Proofs.Database.Tables
import SlotMachine.Proofs.Dialogue.Interleaving
import SlotMachine.Service

/-!
# Settlements with a database

What a round does to the balance of its user, when the balance is kept in a database: the balance is
read, and created if there is none, whatever comes of it; then it is updated, and set anew if it is
missing or below zero afterwards.

A settlement is at one of four points when it waits: it is about to read (`settle`), to create
(`creating`), to add (`adding`) or to set anew (`resetting`). For each of them a `goes` lemma tells
where the next request leads.
-/

namespace SlotMachine

namespace Database

/-- What is settled with a user's balance, and when. -/
structure Charge (N : Type) where
  bet : N
  payout : N
  readAt : Instant
  updateAt : Instant

def Charge.change {N : Type} [Sub N] (c : Charge N) : N := c.payout - c.bet

namespace Ledger

variable {N : Type}

/-- A balance that is there, and with which updates reckon. -/
structure Holds (l : Ledger N) (userId : String) (s : Tables N) (x : N) : Prop where
  balance : s.balance? l.table userId = some x
  reckoned : s.reckoned? l.table userId l.defaultBalance = some x
  isSome : (s (l.table, userId)).isSome

section

variable {l : Ledger N} {userId : String} {s : Tables N} {x : N}

lemma holds_put {item : Item N} (h : item.lookup "balance" = some (.number x)) :
    l.Holds userId (s.put l.table userId item) x :=
  ⟨(Tables.holds_put h l.defaultBalance).1, (Tables.holds_put h l.defaultBalance).2, by simp⟩

lemma holds_update (time : Instant) : l.Holds userId (s.update l.table userId x time) x :=
  holds_put rfl

end

/-! ### Setting a balance anew -/

section

variable [Add N] [Sub N] (l : Ledger N) (userId : String) (c : Charge N)

/-- What a balance is set to that is missing or below zero after its update. -/
def anew : N := l.defaultBalance - c.bet + c.payout

/-- A settlement that found the balance missing or below zero after the update. -/
def resetting : Conversation N (Except Failure N) :=
  ExceptT.run do
    Inquiry.setBalance l.table userId (l.anew c) c.updateAt
    pure (l.anew c)

lemma resetting_eq : l.resetting userId c =
    .ask (.setBalance l.table userId (l.anew c) c.updateAt) fun
      | none => .done (.error ⟨["failed to reset user balance"]⟩)
      | some _ => .done (.ok (l.anew c)) := by
  refine congrArg (Dialogue.ask _) (funext fun reply => ?_)
  cases reply with
  | none => rfl
  | some _ => rfl

lemma goes_resetting (s : Tables N) :
    ∃ s', Dialogue.Goes Tables.answer (l.resetting userId c) s (.done (.ok (l.anew c))) s' ∧
      l.Holds userId s' (l.anew c) := by
  rw [resetting_eq]
  exact ⟨_, .of_eq Tables.answer_setBalance rfl, holds_update c.updateAt⟩

end

/-! ### Reading, creating and updating a balance -/

variable [Zero N] [Add N] [Sub N] [LE N] [DecidableLE N] (l : Ledger N) (userId : String)
  (c : Charge N)

/-- A settlement that has the balance read already. -/
def adding : Conversation N (Except Failure N) :=
  (l.updateBalance userId c.bet c.payout c.updateAt).run

def settle : Conversation N (Except Failure N) := do
  let _ ← (l.getBalance userId c.readAt).run
  l.adding userId c

/-- A settlement that found no balance. -/
def creating : Conversation N (Except Failure N) :=
  .ask (.put l.table (l.newBalance userId c.readAt)) fun _ => l.adding userId c

/-- What a balance `x` becomes. -/
def after (x : N) : N := if 0 ≤ x + c.change then x + c.change else l.anew c

lemma settle_eq : l.settle userId c =
    .ask (.getBalance l.table userId) fun
      | some none => l.creating userId c
      | _ => l.adding userId c := by
  refine congrArg (Dialogue.ask _) (funext fun reply => ?_)
  match reply with
  | none => rfl
  | some none =>
    refine congrArg (Dialogue.ask _) (funext fun reply => ?_)
    cases reply with
    | none => rfl
    | some _ => rfl
  | some (some item) => rfl

lemma adding_eq : l.adding userId c =
    .ask (.addToBalance l.table userId l.defaultBalance c.change c.updateAt) fun
      | none => .done (.error ⟨["failed to update user balance"]⟩)
      | some attributes =>
        match (attributes.bind (·.number? "balance")).filter (0 ≤ ·) with
        | some balance => .done (.ok balance)
        | none => l.resetting userId c := by
  refine congrArg (Dialogue.ask _) (funext fun reply => ?_)
  cases reply with
  | none => rfl
  | some attributes =>
    change ExceptT.run (match (attributes.bind (·.number? "balance")).filter (0 ≤ ·) with
      | some balance => pure balance
      | none => _) = _
    cases h : (attributes.bind (·.number? "balance")).filter (0 ≤ ·) with
    | none =>
      simp only [h]
      rfl
    | some balance =>
      simp only [h]
      rfl

lemma goes_creating (s : Tables N) :
    ∃ s', Dialogue.Goes Tables.answer (l.creating userId c) s (l.adding userId c) s' ∧
      l.Holds userId s' l.defaultBalance :=
  ⟨_, .of_eq (Tables.answer_put rfl) rfl, holds_put rfl⟩

variable {l userId} {s : Tables N} {x : N}

lemma goes_settle_of_none (h : s (l.table, userId) = none) :
    Dialogue.Goes Tables.answer (l.settle userId c) s (l.creating userId c) s := by
  rw [settle_eq]
  exact .of_eq (congrArg (fun item => (some item, s)) h) rfl

lemma goes_settle (h : (s (l.table, userId)).isSome) :
    Dialogue.Goes Tables.answer (l.settle userId c) s (l.adding userId c) s := by
  obtain ⟨item, hitem⟩ := Option.isSome_iff_exists.1 h
  rw [settle_eq]
  exact .of_eq (congrArg (fun item => (some item, s)) hitem) rfl

lemma goes_adding (h : s.reckoned? l.table userId l.defaultBalance = some x) :
    ∃ s', Dialogue.Goes Tables.answer (l.adding userId c) s
      (if 0 ≤ x + c.change then .done (.ok (x + c.change)) else l.resetting userId c) s' ∧
      l.Holds userId s' (x + c.change) := by
  rw [adding_eq]
  refine ⟨_, .of_eq (Tables.answer_addToBalance h) ?_, holds_update c.updateAt⟩
  change (match (some (x + c.change)).filter (0 ≤ ·) with
    | some balance => Dialogue.done (Except.ok balance)
    | none => l.resetting userId c) = _
  by_cases hx : 0 ≤ x + c.change
  · simp [Option.filter, hx]
  · simp [Option.filter, hx]

/-- A balance that is no number stays as it is, and the settlement fails. -/
lemma goes_adding_of_none (h : s.reckoned? l.table userId l.defaultBalance = none) :
    Dialogue.Goes Tables.answer (l.adding userId c) s
      (.done (.error ⟨["failed to update user balance"]⟩)) s := by
  rw [adding_eq]
  exact .of_eq (Tables.answer_addToBalance_of_none h) rfl

/-! ### Settlements on their own -/

lemma run_adding (h : s.reckoned? l.table userId l.defaultBalance = some x) :
    ∃ s', (l.adding userId c).run Tables.answer s = (.ok (l.after c x), s') ∧
      l.Holds userId s' (l.after c x) := by
  obtain ⟨s₁, hgoes, h₁⟩ := goes_adding c h
  rw [hgoes.run_eq]
  by_cases hx : 0 ≤ x + c.change
  · simp only [after, hx, if_true]
    exact ⟨s₁, rfl, h₁⟩
  · simp only [after, hx, if_false]
    obtain ⟨s₂, hgoes, h₂⟩ := goes_resetting l userId c s₁
    rw [hgoes.run_eq]
    exact ⟨s₂, rfl, h₂⟩

/-- On its own, a settlement makes a balance `x` what it becomes, also if `x` is the default because
the balance was missing. -/
lemma run_settle (h : s.reckoned? l.table userId l.defaultBalance = some x) :
    ∃ s', (l.settle userId c).run Tables.answer s = (.ok (l.after c x), s') ∧
      l.Holds userId s' (l.after c x) := by
  cases hitem : s (l.table, userId) with
  | none =>
    obtain rfl : l.defaultBalance = x :=
      Option.some.inj ((Tables.reckoned?_of_none hitem _).symm.trans h)
    obtain ⟨s₁, hgoes, h₁⟩ := goes_creating l userId c s
    rw [(goes_settle_of_none c hitem).run_eq, hgoes.run_eq]
    exact run_adding c h₁.reckoned
  | some item =>
    rw [(goes_settle c (hitem ▸ rfl)).run_eq]
    exact run_adding c h

end Ledger

/-! ### Settlements of rounds -/

/-- Where a repository answers for the balances, what the service does to the balance of a round's
user is a settlement. -/
lemma applyBalance_run {r : Repository} {answer : (c : Call) → Conversation Float c.Reply}
    {round : Round} {readAt updateAt : Instant}
    (hread : answer (.getBalance round.userId) = (r.getBalance round.userId readAt).run)
    (hupdate : answer (.updateBalance round.userId round.bet round.payout) =
      (r.updateBalance round.userId round.bet round.payout updateAt).run) (recorder : Recorder) :
    (Exchange.applyBalance round recorder).run answer =
      (·, recorder) <$>
        r.ledger.settle round.userId ⟨round.bet, round.payout, readAt, updateAt⟩ := by
  have h : (Exchange.applyBalance round recorder).run answer =
      (answer (.getBalance round.userId)).bind fun _ =>
        (answer (.updateBalance round.userId round.bet round.payout)).bind fun reply =>
          .done (reply, recorder) := rfl
  rw [h, hread, hupdate]
  exact (Dialogue.bind_assoc _ _ _).symm

end Database

end SlotMachine
