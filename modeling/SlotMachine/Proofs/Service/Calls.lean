import SlotMachine.Proofs.Round.Play
import SlotMachine.Proofs.Service.Speaks

/-!
# The calls of a play

Which calls a play makes, in which order and with which arguments, whatever the collaborators reply.

What a settlement should say is written down for itself, in the order of the calls:
`OpeningReplies.log` for the calls that are always made, `ClosingTalk` for what follows the update
of the balance, and in it `WagerTalk`.
-/

namespace SlotMachine

open Dialogue (Transcript)

/-- The round that is left when it was to be saved: as it comes back, or as it was if it could not
be saved. -/
def Round.kept (round : Round) (saved : Except Failure Round) : Round :=
  match saved with
  | .ok saved => saved
  | .error _ => round

/-- Two rounds have everything in common, perhaps except for their ids. -/
structure Round.SameButId (r r' : Round) : Prop where
  userId : r.userId = r'.userId
  bet : r.bet = r'.bet
  outcome : r.outcome = r'.outcome
  payout : r.payout = r'.payout
  time : r.time = r'.time

lemma Round.kept_sameButId {round : Round} {saved : Except Failure Round}
    (h : ∀ r, saved = .ok r → ∃ id, r = round.withId id) : (round.kept saved).SameButId round := by
  cases saved with
  | ok r =>
    obtain ⟨id, rfl⟩ := h r rfl
    exact ⟨rfl, rfl, rfl, rfl, rfl⟩
  | error _ => exact ⟨rfl, rfl, rfl, rfl, rfl⟩

namespace Exchange

/-! ### The steps of a settlement -/

variable (round : Round)

lemma persist_asks : (persist round).Asks (.save round) round.kept := by
  refine asks_of_silent fun saved => ?_
  cases saved with
  | ok saved => exact silent_pure saved
  | error _ => exact silent_pure round

lemma recordRound_silent : (recordRound round).Silent () :=
  silent_modify _

lemma recordSession_asks :
    (recordSession round).Asks (.sessionStats round.userId 1) fun _ => () := by
  refine asks_of_silent fun reply => ?_
  match reply with
  | .ok (some stats) => exact silent_modify _
  | .ok none => exact silent_pure ()
  | .error _ => exact silent_pure ()

lemma recordRolling_asks : recordRolling.Asks (.rollingStats 24) fun _ => () := by
  refine asks_of_silent fun reply => ?_
  match reply with
  | .ok (some stats) => exact silent_modify _
  | .ok none => exact silent_pure ()
  | .error _ => exact silent_pure ()

lemma applyBalance_speaks :
    (applyBalance round).Speaks fun log updated => ∃ balance,
      log = [⟨.getBalance round.userId, balance⟩,
        ⟨.updateBalance round.userId round.bet round.payout, updated⟩] := by
  refine (Asks.bind (asks_ask _) fun _ => asks_ask _).congr fun log updated => ?_
  constructor
  · rintro ⟨balance, _, rfl, _, rfl, rfl⟩
    exact ⟨balance, rfl⟩
  · rintro ⟨balance, rfl⟩
    exact ⟨balance, _, rfl, updated, rfl, rfl⟩

/-- The progress that comes of placing a wager. -/
def progressOf (reply : Except Failure (Option PlacedWager)) : Option Json :=
  match reply with
  | .ok (some placed) => placed.progress
  | _ => none

/-- What is said after the wager of a round has been validated or not, and what progress comes of
it: the wager is placed with the validation, if there is one. -/
inductive PlacementTalk (round : Round) :
    Except Failure (Option Json) → Transcript Call.Reply → Option Json → Prop
  | skipped {validated : Except Failure (Option Json)}
      (h : ∀ validation, validated ≠ .ok (some validation)) : PlacementTalk round validated [] none
  | placed (validation : Json) (reply : Except Failure (Option PlacedWager)) :
      PlacementTalk round (.ok (some validation))
        [⟨.placeWager validation (if round.outcome.win then .win else .lose) round.payout, reply⟩]
        (progressOf reply)

/-- What is said about the wager of a round, and what progress comes of it. -/
def WagerTalk (round : Round) (log : Transcript Call.Reply) (progress : Option Json) : Prop :=
  ∃ validated rest, log = ⟨.validateWager round.userId round.bet gameId, validated⟩ :: rest ∧
    PlacementTalk round validated rest progress

lemma placing_asks (validation : Json) (result : WagerResult) (payout : Float) :
    Asks (do match ← placeWager validation result payout with
      | .ok (some placed) => pure placed.progress
      | _ => pure none) (.placeWager validation result payout) progressOf := by
  refine asks_of_silent fun reply => ?_
  match reply with
  | .ok (some placed) => exact silent_pure placed.progress
  | .ok none => exact silent_pure none
  | .error _ => exact silent_pure none

lemma placing_speaks (validation : Json) :
    Speaks (do match ← placeWager validation (.ofWin round.outcome.win) round.payout with
      | .ok (some placed) => pure placed.progress
      | _ => pure none) (PlacementTalk round (.ok (some validation))) := by
  refine (placing_asks validation _ round.payout).congr fun log progress => ?_
  constructor
  · rintro ⟨reply, rfl, rfl⟩
    exact .placed validation reply
  · rintro (h | ⟨_, reply⟩)
    · exact absurd rfl (h validation)
    · exact ⟨reply, rfl, rfl⟩

lemma skipping_speaks {validated : Except Failure (Option Json)}
    (h : ∀ validation, validated ≠ .ok (some validation)) :
    Speaks (pure none) (PlacementTalk round validated) := by
  refine (silent_pure none).congr fun log progress => ?_
  constructor
  · rintro ⟨rfl, rfl⟩
    exact .skipped h
  · rintro (_ | ⟨validation, _⟩)
    · exact ⟨rfl, rfl⟩
    · exact absurd rfl (h validation)

lemma wager_speaks : (wager round).Speaks (WagerTalk round) := by
  refine Asks.bind (asks_ask _) fun validated => ?_
  match validated with
  | .ok (some validation) => exact placing_speaks round validation
  | .ok none => exact skipping_speaks round fun _ h => by cases h
  | .error _ => exact skipping_speaks round fun _ h => by cases h

end Exchange

/-! ### Settlements and plays -/

/-- What is replied to the calls that every settlement begins with. -/
structure OpeningReplies where
  saved : Except Failure Round
  published : Except Failure Unit
  session : Except Failure (Option SessionStats)
  rolling : Except Failure (Option RollingStats)
  balance : Except Failure Float
  updated : Except Failure Float

namespace OpeningReplies

variable (o : OpeningReplies) (drawn : Round)

/-- The calls with which the settlement of the drawn round begins, and what is replied. -/
def log (trace : Trace) : Transcript Call.Reply := [
  ⟨.save drawn, o.saved⟩,
  ⟨.publish (.ofRound (drawn.kept o.saved) trace), o.published⟩,
  ⟨.sessionStats (drawn.kept o.saved).userId 1, o.session⟩,
  ⟨.rollingStats 24, o.rolling⟩,
  ⟨.getBalance (drawn.kept o.saved).userId, o.balance⟩,
  ⟨.updateBalance (drawn.kept o.saved).userId (drawn.kept o.saved).bet (drawn.kept o.saved).payout,
    o.updated⟩]

end OpeningReplies

open Exchange

/-- What is said after the balance has been updated or not, and what comes of the settlement. -/
inductive ClosingTalk (wagers : Bool) (round : Round) :
    Except Failure Float → Transcript Call.Reply → Except SpinError Settlement → Prop
  | failed (failure : Failure) : ClosingTalk wagers round (.error failure) []
      (.error (.collaborator "balance update" failure))
  | unwagered (balance : Float) (h : wagers = false) :
      ClosingTalk wagers round (.ok balance) [] (.ok ⟨round, balance, none⟩)
  | wagered (balance : Float) (h : wagers = true) {log : Transcript Call.Reply}
      {progress : Option Json} (talk : WagerTalk round log progress) :
      ClosingTalk wagers round (.ok balance) log (.ok ⟨round, balance, progress⟩)

/-- All that is said after the update of a balance goes to the wager service, so that nothing else is
found there. -/
lemma ClosingTalk.filterMap_eq_nil {β : Type} {f : (c : Call) × c.Reply → Option β} {wagers : Bool}
    {round : Round} {updated : Except Failure Float} {log : Transcript Call.Reply}
    {result : Except SpinError Settlement} (h : ClosingTalk wagers round updated log result)
    (hvalidate : ∀ userId amount gameId reply,
      f ⟨.validateWager userId amount gameId, reply⟩ = none)
    (hplace : ∀ validation outcome payout reply,
      f ⟨.placeWager validation outcome payout, reply⟩ = none) : log.filterMap f = [] := by
  cases h with
  | failed _ => rfl
  | unwagered _ _ => rfl
  | wagered _ _ talk =>
    obtain ⟨_, _, rfl, hplacement⟩ := talk
    cases hplacement with
    | skipped _ => simp [hvalidate]
    | placed _ _ => simp [hvalidate, hplace]

/-- What is said in the settlement of a drawn round, and what comes of it. -/
def SettlementTalk (wagers : Bool) (drawn : Round) (trace : Trace) (log : Transcript Call.Reply)
    (result : Except SpinError Settlement) : Prop :=
  ∃ (o : OpeningReplies) (rest : Transcript Call.Reply), log = o.log drawn trace ++ rest ∧
    ClosingTalk wagers (drawn.kept o.saved) o.updated rest result

namespace Service

variable (s : Service)

/-- What a settlement does when the balance has been updated or not. -/
def close (round : Round) (updated : Except Failure Float) :
    Exchange (Except SpinError Settlement) :=
  match updated with
  | .error failure => pure (.error (.collaborator "balance update" failure))
  | .ok newBalance => do
    let progress ← if s.wagers then wager round else pure none
    pure (.ok { round, newBalance, progress })

lemma close_speaks (round : Round) (updated : Except Failure Float) :
    (s.close round updated).Speaks (ClosingTalk s.wagers round updated) := by
  cases updated with
  | error failure =>
    refine (silent_pure _).congr fun log result => ?_
    constructor
    · rintro ⟨rfl, rfl⟩
      exact .failed failure
    · rintro ⟨⟩
      exact ⟨rfl, rfl⟩
  | ok balance =>
    cases hw : s.wagers with
    | false =>
      have h : (s.close round (.ok balance)).Silent (.ok ⟨round, balance, none⟩) := by
        simp only [close, hw]
        exact (silent_pure none).bind (silent_pure _)
      refine h.congr fun log result => ?_
      constructor
      · rintro ⟨rfl, rfl⟩
        exact .unwagered balance rfl
      · rintro (_ | _ | ⟨_, hw', _⟩)
        · exact ⟨rfl, rfl⟩
        · cases hw'
    | true =>
      have h : (s.close round (.ok balance)).Speaks fun log result => ∃ progress,
          WagerTalk round log progress ∧ result = .ok ⟨round, balance, progress⟩ := by
        simp only [close, hw]
        exact (wager_speaks round).bind_silent fun _ => silent_pure _
      refine h.congr fun log result => ?_
      constructor
      · rintro ⟨progress, talk, rfl⟩
        exact .wagered balance rfl talk
      · rintro (_ | ⟨_, hw'⟩ | ⟨_, _, talk⟩)
        · cases hw'
        · exact ⟨_, talk, rfl⟩

lemma settle_eq (drawn : Round) (trace : Trace) :
    s.settle drawn trace = (do
      let round ← persist drawn
      let _ ← publish (.ofRound round trace)
      recordRound round
      recordSession round
      recordRolling
      let updated ← applyBalance round
      s.close round updated) := rfl

/-- A settlement is said as it should, whatever is replied. -/
lemma settle_speaks (drawn : Round) (trace : Trace) :
    (s.settle drawn trace).Speaks (SettlementTalk s.wagers drawn trace) := by
  rw [settle_eq]
  refine Speaks.congr ((persist_asks drawn).bind fun saved =>
    (asks_ask (.publish (.ofRound (drawn.kept saved) trace))).bind fun _ =>
    (recordRound_silent (drawn.kept saved)).bind <|
    (recordSession_asks (drawn.kept saved)).bind fun _ => recordRolling_asks.bind fun _ =>
    (applyBalance_speaks (drawn.kept saved)).bind fun _ updated _ =>
      s.close_speaks (drawn.kept saved) updated) fun log result => ?_
  constructor
  · rintro ⟨saved, _, rfl, published, _, rfl, session, _, rfl, rolling, _, rfl, updated, _, rest,
      rfl, ⟨balance, rfl⟩, talk⟩
    exact ⟨⟨saved, published, session, rolling, balance, updated⟩, rest, rfl, talk⟩
  · rintro ⟨o, rest, rfl, talk⟩
    exact ⟨o.saved, _, rfl, o.published, _, rfl, o.session, _, rfl, o.rolling, _, rfl, o.updated,
      _, rest, rfl, ⟨o.balance, rfl⟩, talk⟩

lemma counted_speaks {α : Type} {x : Exchange (Except SpinError α)}
    {T : Transcript Call.Reply → Except SpinError α → Prop} (hx : x.Speaks T) :
    (counted x).Speaks T := by
  have hcounted : (counted x).Speaks fun log result => ∃ a, T log a ∧ result = a := by
    refine hx.bind_silent fun result => ?_
    cases result with
    | ok a => exact silent_pure (Except.ok a)
    | error e => exact (silent_modify _).bind (silent_pure _)
  refine hcounted.congr fun log result => ?_
  constructor
  · rintro ⟨_, talk, rfl⟩
    exact talk
  · intro talk
    exact ⟨result, talk, rfl⟩

lemma play_apply (request : PlayRequest) (trace : Trace) (now : Instant) (chance : Chance)
    (meter : Meter) :
    (s.play request trace now chance meter).1 =
      s.settleDrawn (s.engine.playRound request.toSpinRequest now chance meter).1 trace := by
  simp only [play, Draw.bind_apply, Draw.pure_apply, ExceptT.run]

lemma settleDrawn_speaks (drawn : Except PlayError Round) (trace : Trace) :
    (s.settleDrawn drawn trace).Speaks fun log result =>
      match drawn with
      | .error e => log = [] ∧ result = .error (.ofPlayError e)
      | .ok drawn => SettlementTalk s.wagers drawn trace log result := by
  cases drawn with
  | error e => exact counted_speaks (silent_pure _)
  | ok drawn => exact counted_speaks (s.settle_speaks drawn trace)

/-- Where nothing has been drawn, nothing is said; else the round is settled, which is the one that
was asked for. It stays the same if saving does no more than give it an id, as is promised of it. -/
theorem play_speaks (request : PlayRequest) (trace : Trace) (now : Instant) (chance : Chance)
    (meter : Meter) :
    (∀ drawn, (s.engine.playRound request.toSpinRequest now chance meter).1 = .ok drawn →
      drawn.id = none ∧ drawn.userId = trim request.userId ∧ drawn.bet = request.bet ∧
      ∀ saved, (∀ round, saved = .ok round → ∃ id, round = drawn.withId id) →
        (drawn.kept saved).SameButId drawn) ∧
    (s.play request trace now chance meter).1.Speaks fun log result =>
      match (s.engine.playRound request.toSpinRequest now chance meter).1 with
      | .error e => log = [] ∧ result = .error (.ofPlayError e)
      | .ok drawn => SettlementTalk s.wagers drawn trace log result := by
  constructor
  · intro drawn hdrawn
    obtain ⟨outcome, payout, -, -, -, rfl⟩ := Engine.playRound_eq_ok hdrawn
    exact ⟨rfl, rfl, rfl, fun _ => Round.kept_sameButId⟩
  · rw [play_apply]
    generalize (s.engine.playRound request.toSpinRequest now chance meter).1 = drawn
    exact s.settleDrawn_speaks drawn trace

end Service

end SlotMachine
