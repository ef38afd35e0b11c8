import SlotMachine.Proofs.Service.Runs

/-!
# What collaborators can change about a play

A play that is repeated with other collaborators goes the same way, as long as they give the same
answers to updates of balances: all other calls may succeed or fail as they like, and only the id of
the round and the progress of its wager tell one time from the other.

Each play is compared with what the drawn round and the answer to its update make of it
(`SettlementTalk.decided`); two plays agree because this is the same for both.
-/

namespace SlotMachine

open Dialogue (Transcript Answered)

/-! ### The updates of balances -/

namespace Exchange

/-- The user, the bet and the payout of each update that is asked for. -/
def updates (log : Transcript Call.Reply) : List (String × Float × Float) :=
  log.filterMap fun
    | ⟨.updateBalance userId bet payout, _⟩ => some (userId, bet, payout)
    | _ => none

lemma updates_append (log log' : Transcript Call.Reply) :
    updates (log ++ log') = updates log ++ updates log' :=
  List.filterMap_append

end Exchange

open Exchange (updates)

lemma ClosingTalk.updates_eq {wagers : Bool} {round : Round} {updated : Except Failure Float}
    {log : Transcript Call.Reply} {result : Except SpinError Settlement}
    (h : ClosingTalk wagers round updated log result) : updates log = [] :=
  h.filterMap_eq_nil (fun _ _ _ _ => rfl) (fun _ _ _ _ => rfl)

lemma OpeningReplies.updates_log (o : OpeningReplies) (drawn : Round) (trace : Trace) :
    updates (o.log drawn trace) = [((drawn.kept o.saved).userId, (drawn.kept o.saved).bet,
      (drawn.kept o.saved).payout)] := rfl

/-! ### Rounds that are the same but for their ids -/

namespace Round.SameButId

variable {a b c : Round}

lemma symm (h : a.SameButId b) : b.SameButId a :=
  ⟨h.userId.symm, h.bet.symm, h.outcome.symm, h.payout.symm, h.time.symm⟩

lemma trans (h : a.SameButId b) (h' : b.SameButId c) : a.SameButId c :=
  ⟨h.userId.trans h'.userId, h.bet.trans h'.bet, h.outcome.trans h'.outcome,
    h.payout.trans h'.payout, h.time.trans h'.time⟩

end Round.SameButId

/-! ### Collaborators -/

/-- Collaborators who answer updates of balances as given, and who do no more to a round that they
save than to give it an id. Nothing else is asked of them. -/
structure Settles {σ : Type} (answer : (c : Call) → StateM σ c.Reply)
    (updated : (userId : String) → (bet payout : Float) → Except Failure Float) : Prop where
  save_withId : ∀ round state saved, (answer (.save round) state).1 = .ok saved →
    ∃ id, saved = round.withId id
  update_eq : ∀ userId bet payout state,
    (answer (.updateBalance userId bet payout) state).1 = updated userId bet payout

/-- The same error, or settlements of rounds that have all but their ids in common, with the same
balance. -/
inductive SameResult : Except SpinError Settlement → Except SpinError Settlement → Prop
  | failed (e : SpinError) : SameResult (.error e) (.error e)
  | settled {a b : Settlement} (round : a.round.SameButId b.round)
      (newBalance : a.newBalance = b.newBalance) : SameResult (.ok a) (.ok b)

/-- What the drawn round and the answer to the update of its balance make of a play. -/
inductive Decided (updated : String → Float → Float → Except Failure Float) :
    Except PlayError Round → Transcript Call.Reply → Except SpinError Settlement → Prop
  | undrawn (e : PlayError) {log : Transcript Call.Reply} (hlog : updates log = []) :
      Decided updated (.error e) log (.error (.ofPlayError e))
  | failed {drawn : Round} {log : Transcript Call.Reply} {failure : Failure}
      (hlog : updates log = [(drawn.userId, drawn.bet, drawn.payout)])
      (hupdated : updated drawn.userId drawn.bet drawn.payout = .error failure) :
      Decided updated (.ok drawn) log (.error (.collaborator "balance update" failure))
  | settled {drawn : Round} {log : Transcript Call.Reply} {settlement : Settlement}
      (hlog : updates log = [(drawn.userId, drawn.bet, drawn.payout)])
      (hupdated : updated drawn.userId drawn.bet drawn.payout = .ok settlement.newBalance)
      (hround : settlement.round.SameButId drawn) : Decided updated (.ok drawn) log (.ok settlement)

section

variable {σ : Type} {answer : (c : Call) → StateM σ c.Reply}
  {updated : String → Float → Float → Except Failure Float} {wagers : Bool} {trace : Trace}
  {log : Transcript Call.Reply} {result : Except SpinError Settlement} {state state' : σ}

lemma SettlementTalk.decided {drawn : Round}
    (htalk : SettlementTalk wagers drawn trace log result) (hsettles : Settles answer updated)
    (hanswered : Answered answer state log state') : Decided updated (.ok drawn) log result := by
  obtain ⟨o, rest, rfl, hclosing⟩ := htalk
  obtain ⟨hsaved, _, -, hupdated⟩ := OpeningReplies.answered_of_log hanswered
  have hround : (drawn.kept o.saved).SameButId drawn :=
    Round.kept_sameButId fun r hr => hsettles.save_withId drawn state r (hsaved ▸ hr)
  rw [hsettles.update_eq, hround.userId, hround.bet, hround.payout] at hupdated
  have hlog : updates (o.log drawn trace ++ rest) =
      [(drawn.userId, drawn.bet, drawn.payout)] := by
    rw [Exchange.updates_append, hclosing.updates_eq, o.updates_log, hround.userId, hround.bet,
      hround.payout]
    rfl
  obtain ⟨failure, hfailed, -, rfl⟩ | ⟨balance, progress, hsettled, rfl⟩ := hclosing.of_updated
  · exact .failed hlog (hupdated.symm.trans hfailed)
  · exact .settled hlog (hupdated.symm.trans hsettled) hround

lemma PlayTalk.decided {drawn : Except PlayError Round}
    (htalk : PlayTalk wagers trace drawn log result) (hsettles : Settles answer updated)
    (hanswered : Answered answer state log state') : Decided updated drawn log result := by
  cases htalk with
  | undrawn e => exact .undrawn e rfl
  | drawn talk => exact talk.decided hsettles hanswered

end

namespace Decided

variable {drawn : Except PlayError Round}
  {updated : String → Float → Float → Except Failure Float} {log log' : Transcript Call.Reply}
  {result result' : Except SpinError Settlement}

lemma updates_eq (h : Decided updated drawn log result)
    (h' : Decided updated drawn log' result') : updates log = updates log' := by
  cases h with
  | undrawn e hlog =>
    cases h' with
    | undrawn _ hlog' => exact hlog.trans hlog'.symm
  | failed hlog _ | settled hlog _ _ =>
    cases h' with
    | failed hlog' _ | settled hlog' _ _ => exact hlog.trans hlog'.symm

lemma sameResult (h : Decided updated drawn log result)
    (h' : Decided updated drawn log' result') : SameResult result result' := by
  cases h with
  | undrawn e _ =>
    cases h' with
    | undrawn _ _ => exact .failed _
  | failed _ hupdated =>
    cases h' with
    | failed _ hupdated' =>
      obtain rfl := Except.error.inj (hupdated.symm.trans hupdated')
      exact .failed _
    | settled _ hupdated' _ => cases hupdated.symm.trans hupdated'
  | settled _ hupdated hround =>
    cases h' with
    | failed _ hupdated' => cases hupdated.symm.trans hupdated'
    | settled _ hupdated' hround' =>
      have hbalance := Except.ok.inj (hupdated.symm.trans hupdated')
      exact .settled (hround.trans hround'.symm) hbalance

/-- A play is settled exactly if its round was drawn and the balance updated. -/
lemma isOk_iff (h : Decided updated drawn log result) :
    (∃ settlement, result = .ok settlement) ↔ ∃ round balance, drawn = .ok round ∧
      updated round.userId round.bet round.payout = .ok balance := by
  cases h with
  | undrawn e _ => simp
  | failed _ hupdated => simp [hupdated]
  | settled _ hupdated _ => simp [hupdated]

end Decided

namespace Service

lemma play_decided (s : Service) {σ : Type} {answer : (c : Call) → StateM σ c.Reply}
    {updated : String → Float → Float → Except Failure Float} (h : Settles answer updated)
    (request : PlayRequest) (trace : Trace) (now : Instant) (chance : Chance) (meter : Meter)
    (recorder : Recorder) (state : σ) :
    Decided updated (s.engine.playRound request.toSpinRequest now chance meter).1
      ((s.play request trace now chance meter).1.said answer recorder state)
      ((s.play request trace now chance meter).1.result answer recorder state) :=
  (s.play_talk answer request trace now chance meter recorder state).decided h
    (Exchange.answered_said answer _ recorder state)

/-- Two plays of one request on one engine, with the same words at the same time, and with
collaborators who agree in nothing but their answers to updates of balances: they draw the same, ask
for the same updates and come to the same result. They are settled exactly if a round was drawn and
the answer to its update is a balance. -/
theorem play_agrees (engine : Engine) (request : PlayRequest) (now : Instant) (chance : Chance)
    (meter : Meter) {updated : String → Float → Float → Except Failure Float} {σ₁ σ₂ : Type}
    {answer₁ : (c : Call) → StateM σ₁ c.Reply} {answer₂ : (c : Call) → StateM σ₂ c.Reply}
    (h₁ : Settles answer₁ updated) (h₂ : Settles answer₂ updated) (wagers₁ wagers₂ : Bool)
    (trace₁ trace₂ : Trace) (recorder₁ recorder₂ : Recorder) (state₁ : σ₁) (state₂ : σ₂) :
    let play₁ := Service.play ⟨engine, wagers₁⟩ request trace₁ now chance meter
    let play₂ := Service.play ⟨engine, wagers₂⟩ request trace₂ now chance meter
    let result₁ := play₁.1.result answer₁ recorder₁ state₁
    let result₂ := play₂.1.result answer₂ recorder₂ state₂
    play₁.2 = play₂.2 ∧
    updates (play₁.1.said answer₁ recorder₁ state₁) =
      updates (play₂.1.said answer₂ recorder₂ state₂) ∧
    SameResult result₁ result₂ ∧
    ((∃ settlement, result₁ = .ok settlement) ↔ ∃ round balance,
      (engine.playRound request.toSpinRequest now chance meter).1 = .ok round ∧
      updated round.userId round.bet round.payout = .ok balance) := by
  have hdecided₁ := play_decided ⟨engine, wagers₁⟩ h₁ request trace₁ now chance meter
    recorder₁ state₁
  have hdecided₂ := play_decided ⟨engine, wagers₂⟩ h₂ request trace₂ now chance meter
    recorder₂ state₂
  dsimp only at hdecided₁ hdecided₂ ⊢
  refine ⟨?_, hdecided₁.updates_eq hdecided₂, hdecided₁.sameResult hdecided₂, hdecided₁.isOk_iff⟩
  exact (play_meter request trace₁ now chance meter engine wagers₁).trans
    (play_meter request trace₂ now chance meter engine wagers₂).symm

end Service

/-! ### Collaborators at both ends -/

/-- Updates as if every balance was 500. -/
def fromFiveHundred (_ : String) (bet payout : Float) : Except Failure Float :=
  .ok (500.0 - bet + payout)

/-- Whatever is asked fails, except for updates of balances. -/
def unhelpful : (c : Call) → StateM Unit c.Reply
  | .updateBalance userId bet payout => fun s => (fromFiveHundred userId bet payout, s)
  | _ => fun s => (.error ⟨["unavailable"]⟩, s)

/-- Whatever is asked succeeds. The state is the number of rounds that have been saved. -/
def helpful : (c : Call) → StateM Nat c.Reply
  | .save round => fun n => (.ok (round.withId (toString n)), n + 1)
  | .publish _ => fun n => (.ok (), n)
  | .sessionStats _ _ => fun n => (.ok (some ⟨10.0, 20.0, n⟩), n)
  | .rollingStats _ => fun n => (.ok (some ⟨10.0, 20.0, n, 1⟩), n)
  | .getBalance _ => fun n => (.ok 1000.0, n)
  | .updateBalance userId bet payout => fun n => (fromFiveHundred userId bet payout, n)
  | .validateWager _ _ _ => fun n => (.ok (some .null), n)
  | .placeWager _ _ _ => fun n => (.ok (some ⟨none, some (.bool true)⟩), n)

lemma settles_unhelpful : Settles unhelpful fromFiveHundred where
  save_withId _ _ _ h := by cases h
  update_eq _ _ _ _ := rfl

lemma settles_helpful : Settles helpful fromFiveHundred where
  save_withId _ n _ h := ⟨toString n, (Except.ok.inj h).symm⟩
  update_eq _ _ _ _ := rfl

namespace Service

theorem play_agrees_ofAnna :
    let play₁ := Service.play ⟨.primeless, false⟩ .ofAnna [] ⟨0, 0⟩ (.still 0) {}
    let play₂ :=
      Service.play ⟨.primeless, true⟩ .ofAnna [("traceparent", "00")] ⟨0, 0⟩ (.still 0) {}
    let result₁ := play₁.1.result unhelpful {} ()
    let result₂ := play₂.1.result helpful {} 7
    Settles unhelpful fromFiveHundred ∧ Settles helpful fromFiveHundred ∧
    (∃ settlement, result₁ = .ok settlement) ∧ SameResult result₁ result₂ := by
  have hagrees := play_agrees .primeless .ofAnna ⟨0, 0⟩ (.still 0) {} settles_unhelpful
    settles_helpful false true [] [("traceparent", "00")] {} {} () 7
  dsimp only at hagrees ⊢
  refine ⟨settles_unhelpful, settles_helpful, ?_, hagrees.2.2.1⟩
  exact hagrees.2.2.2.2 ⟨.ofAnna, 500.0 - 10.0 + 20.0, playRound_ofAnna, rfl⟩

end Service

end SlotMachine
