import SlotMachine.Proofs.Service.Visits
import SlotMachine.Proofs.Store.Balances

/-!
# A house that keeps everything itself

A house has one store in memory for its rounds and balances, and accepts every event that is
published. Clock, ids and wager service are not its own, and may behave as they like.

Its books are what it holds of balances and events. They follow from the calls alone
(`books_of_answered`), and so there are just two things that a visit can do to them (`Booked`).
-/

namespace SlotMachine

open Dialogue (Transcript Answered)

/-- What a house meets with, by the number of calls that have been made before. -/
structure Surroundings where
  now : Nat → Instant
  id : Nat → String
  validated : Nat → Except Failure (Option Json)
  placed : Nat → Except Failure (Option PlacedWager)

/-- The clock stands still, and nobody has a bonus. -/
def Surroundings.ordinary : Surroundings where
  now _ := ⟨0, 0⟩
  id n := toString n
  validated _ := .ok none
  placed _ := .ok none

structure House where
  store : Store
  events : List RoundEvent := []
  calls : Nat := 0

/-- What a house holds of balances and events. The accounts are a store without rounds. -/
structure Books where
  accounts : Store
  events : List RoundEvent

/-- The books after a call. -/
def Books.after (b : Books) : Call → Books
  | .publish event => { b with events := b.events ++ [event] }
  | .getBalance userId => { b with accounts := (b.accounts.getBalance userId).2 }
  | .updateBalance userId bet payout =>
    { b with accounts := (b.accounts.updateBalance userId bet payout).2 }
  | _ => b

namespace House

/-- A house to which nobody has come yet. -/
def fresh (default : Float) : House where
  store := .fresh default

def books (h : House) : Books where
  accounts := { h.store with rounds := [] }
  events := h.events

/-- The house when one more call has been made. -/
def called (h : House) : House := { h with calls := h.calls + 1 }

/-- A window that begins before time is a failure to those who asked for it. -/
def told {α : Type} (reply : Except WindowError α) : Except Failure α :=
  reply.mapError fun e => ⟨[e.message]⟩

def answer (around : Surroundings) : (c : Call) → StateM House c.Reply
  | .save round => fun h =>
    match h.store.save (around.now h.calls) (around.id h.calls) round with
    | .ok (saved, store) => (.ok saved, { h.called with store })
    | .error e => (told (.error e), h.called)
  | .publish event => fun h => (.ok (), { h.called with events := h.events ++ [event] })
  | .sessionStats userId hours => fun h =>
    (told (h.store.sessionStats (around.now h.calls) userId hours), h.called)
  | .rollingStats hours => fun h =>
    (told (h.store.rollingStats (around.now h.calls) hours), h.called)
  | .getBalance userId => fun h =>
    let (balance, store) := h.store.getBalance userId
    (.ok balance, { h.called with store })
  | .updateBalance userId bet payout => fun h =>
    let (balance, store) := h.store.updateBalance userId bet payout
    (.ok balance, { h.called with store })
  | .validateWager _ _ _ => fun h => (around.validated h.calls, h.called)
  | .placeWager _ _ _ => fun h => (around.placed h.calls, h.called)

variable {around : Surroundings}

/-! ### Single calls -/

lemma save_eq_ok {now : Instant} {id : String} {round : Round} {s s' : Store} {saved : Round}
    (h : s.save now id round = .ok (saved, s')) :
    saved = round.withId id ∧ s'.defaultBalance = s.defaultBalance ∧ s'.balances = s.balances := by
  simp only [Store.save] at h
  cases hstart : windowStart now rollingHours with
  | error e =>
    rw [hstart] at h
    cases h
  | ok start =>
    rw [hstart] at h
    cases h
    exact ⟨rfl, rfl, rfl⟩

lemma answer_save_eq_ok {round saved : Round} {h : House}
    (hsaved : (answer around (.save round) h).1 = .ok saved) :
    ∃ id, saved = round.withId id := by
  simp only [answer] at hsaved
  split at hsaved
  case h_1 saved' store hsave =>
    cases hsaved
    exact ⟨_, (save_eq_ok hsave).1⟩
  case h_2 => cases hsaved

lemma books_answer (c : Call) (h : House) : (answer around c h).2.books = h.books.after c := by
  cases c with
  | save round =>
    simp only [answer]
    split
    case h_1 saved store hsave =>
      obtain ⟨-, hdefault, hbalances⟩ := save_eq_ok hsave
      simp only [books, called, Books.after, hdefault, hbalances]
    case h_2 => rfl
  | publish event => rfl
  | sessionStats userId hours => rfl
  | rollingStats hours => rfl
  | getBalance userId => rfl
  | updateBalance userId bet payout => rfl
  | validateWager userId amount gameId => rfl
  | placeWager validation result payout => rfl

lemma answer_updateBalance (userId : String) (bet payout : Float) (h : House) :
    (answer around (.updateBalance userId bet payout) h).1 =
      .ok (h.books.accounts.updateBalance userId bet payout).1 := rfl

end House

/-! ### Whole exchanges -/

namespace Books

/-- The books after what has been said. -/
def afterAll (b : Books) (log : Transcript Call.Reply) : Books :=
  log.foldl (fun b entry => b.after entry.1) b

lemma afterAll_append (b : Books) (log log' : Transcript Call.Reply) :
    b.afterAll (log ++ log') = (b.afterAll log).afterAll log' :=
  List.foldl_append

variable {b : Books} {round : Round} {log : Transcript Call.Reply}

/-- Nothing that is said after the update of a balance goes into the books. -/
lemma afterAll_closing {wagers : Bool} {updated : Except Failure Float}
    {result : Except SpinError Settlement} (h : ClosingTalk wagers round updated log result) :
    b.afterAll log = b := by
  cases h with
  | failed _ => rfl
  | unwagered _ _ => rfl
  | wagered _ _ talk =>
    obtain ⟨_, _, rfl, hplacement⟩ := talk
    cases hplacement with
    | skipped _ => rfl
    | placed _ _ => rfl

end Books

section

variable {around : Surroundings} {wagers : Bool} {trace : Trace} {log : Transcript Call.Reply}
  {result : Except SpinError Settlement} {house house' : House}

lemma House.books_of_answered (h : Answered (House.answer around) house log house') :
    house'.books = house.books.afterAll log := by
  induction h with
  | nil house => rfl
  | cons c house _ ih => rw [ih, books_answer]; rfl

/-- The reply and the accounts when a round is settled: the account of its user is read and then
updated. -/
def Books.settle (b : Books) (round : Round) : Float × Store :=
  (b.accounts.getBalance round.userId).2.updateBalance round.userId round.bet round.payout

/-- What a play does to the books: nothing, if no round is drawn; else the round is settled, and its
event is added. -/
inductive Booked (trace : Trace) (b : Books) :
    Except PlayError Round → Except SpinError Settlement → Books → Prop
  | undrawn (e : PlayError) : Booked trace b (.error e) (.error (.ofPlayError e)) b
  | settled {drawn round : Round} (progress : Option Json) (hround : round.SameButId drawn) :
      Booked trace b (.ok drawn) (.ok ⟨round, (b.settle round).1, progress⟩)
        ⟨(b.settle round).2, b.events ++ [.ofRound round trace]⟩

lemma Booked.of_undrawn {b b' : Books} {e : PlayError} (h : Booked trace b (.error e) result b') :
    result = .error (.ofPlayError e) ∧ b' = b := by
  cases h with
  | undrawn _ => exact ⟨rfl, rfl⟩

lemma OpeningReplies.afterAll_dropLast (o : OpeningReplies) (b : Books) (drawn : Round) :
    b.afterAll (o.log drawn trace).dropLast =
      ⟨(b.accounts.getBalance (drawn.kept o.saved).userId).2,
        b.events ++ [.ofRound (drawn.kept o.saved) trace]⟩ := rfl

lemma OpeningReplies.afterAll_log (o : OpeningReplies) (b : Books) (drawn : Round) :
    b.afterAll (o.log drawn trace) =
      (b.afterAll (o.log drawn trace).dropLast).after (.updateBalance (drawn.kept o.saved).userId
        (drawn.kept o.saved).bet (drawn.kept o.saved).payout) := rfl

lemma SettlementTalk.booked {drawn : Round} (htalk : SettlementTalk wagers drawn trace log result)
    (hanswered : Answered (House.answer around) house log house') :
    Booked trace house.books (.ok drawn) result house'.books := by
  obtain ⟨o, rest, rfl, hclosing⟩ := htalk
  obtain ⟨hsaved, h, hopening, hupdated⟩ := OpeningReplies.answered_of_log hanswered
  have hround : (drawn.kept o.saved).SameButId drawn :=
    Round.kept_sameButId fun r hr => House.answer_save_eq_ok (hsaved ▸ hr)
  have hbooks : house'.books = house.books.afterAll (o.log drawn trace) := by
    rw [House.books_of_answered hanswered, Books.afterAll_append, Books.afterAll_closing hclosing]
  rw [House.answer_updateBalance, House.books_of_answered hopening, o.afterAll_dropLast]
    at hupdated
  rw [hbooks, o.afterAll_log, o.afterAll_dropLast]
  obtain ⟨failure, hfailed, -, -⟩ | ⟨balance, progress, hsettled, rfl⟩ := hclosing.of_updated
  · -- a house does not fail to update a balance
    cases hupdated.symm.trans hfailed
  · obtain rfl := Except.ok.inj (hupdated.symm.trans hsettled)
    exact .settled progress hround

lemma PlayTalk.booked {drawn : Except PlayError Round}
    (htalk : PlayTalk wagers trace drawn log result)
    (hanswered : Answered (House.answer around) house log house') :
    Booked trace house.books drawn result house'.books := by
  cases htalk with
  | undrawn e =>
    obtain rfl := Dialogue.answered_nil.1 hanswered
    exact .undrawn e
  | drawn talk => exact talk.booked hanswered

/-- What a visit does to the books of a house. -/
lemma Service.visit_booked (s : Service) (v : Visit) (around : Surroundings) (recorder : Recorder)
    (house : House) :
    Booked v.trace house.books (s.drawn v)
      ((s.exchange v).result (House.answer around) recorder house)
      ((s.exchange v).left (House.answer around) recorder house).books :=
  (s.visit_talk (House.answer around) v recorder house).booked
    (Exchange.answered_said (House.answer around) (s.exchange v) recorder house)

end

end SlotMachine
