import SlotMachine.Proofs.Service.House
import SlotMachine.Proofs.Wager.Gateway

/-!
# Wagers over HTTP

What comes of the wager of a settled round when the wager service is asked over HTTP, whatever it
replies. A settlement comes apart into the calls that are no wagers, in which it says the same as
one without a wager service, and the two requests of the wager.
-/

namespace SlotMachine

open Dialogue (Transcript Answered)
open Exchange (WagerTalk PlacementTalk progressOf)

/-- The calls that go to the wager service. -/
def Call.isWager : Call → Bool
  | validateWager _ _ _ => true
  | placeWager _ _ _ => true
  | _ => false

namespace Wager

variable {σ : Type}

/-- What the wager service replies to the two requests of a round; `none` where it gives no reply.
-/
structure Replies where
  validated : Option Reply
  placed : Option Reply

/-- Collaborators whose wager service is asked over HTTP. Each call to it is one request, and the
requests are listed; all other calls are answered by `others`. -/
def Replies.answer (replies : Replies) (others : (c : Call) → StateM σ c.Reply) :
    (c : Call) → StateM (σ × List Request) c.Reply
  | .validateWager userId amount gameId => fun (s, sent) =>
    (readValidation replies.validated, s, sent ++ [validateRequest userId amount gameId])
  | .placeWager validation result payout => fun (s, sent) =>
    (readPlaced replies.placed, s, sent ++ [placeRequest validation result payout])
  | c => fun (s, sent) => ((others c s).1, (others c s).2, sent)

/-- What the replies make of the wager of a round: its progress, and the requests that are sent. The
wager is placed if it has been validated, and then with the very value that was the validation. -/
structure Replies.LeadTo (replies : Replies) (round : Round) (progress : Option Json)
    (sent : List Request) : Prop where
  progress_iff : ∀ p, progress = some p ↔ (∃ v, Says replies.validated v) ∧
    ∃ members, Says replies.placed (.object members) ∧
      members.lookup "wagering_progress" = some p ∧ p ≠ .null
  placed : ∀ v, Says replies.validated v → sent = [
    validateRequest round.userId round.bet gameId,
    ⟨"wager/place", .object [
      ("game_result", .string (if round.outcome.win then "win" else "lose")),
      ("payout", .float round.payout), ("validation_data", v)]⟩]
  skipped : (∀ v, ¬Says replies.validated v) →
    sent = [validateRequest round.userId round.bet gameId]

/-! ### Reading replies -/

lemma progressOf_eq_some (placed : Except Failure (Option PlacedWager)) (p : Json) :
    progressOf placed = some p ↔ ∃ wager, placed = .ok (some wager) ∧ wager.progress = some p := by
  rcases placed with e | _ | wager <;> simp [progressOf]

lemma progressOf_readPlaced (reply : Option Reply) (p : Json) :
    progressOf (readPlaced reply) = some p ↔ ∃ members, Says reply (.object members) ∧
      members.lookup "wagering_progress" = some p ∧ p ≠ .null :=
  (progressOf_eq_some _ p).trans (readPlaced_progress reply p)

/-! ### The calls of a settlement -/

section

variable {replies : Replies} {others : (c : Call) → StateM σ c.Reply} {s : σ} {sent : List Request}
  {log : Transcript Call.Reply} {t : σ × List Request}

lemma answer_of_not_isWager {c : Call} (h : c.isWager = false) :
    replies.answer others c (s, sent) = ((others c s).1, (others c s).2, sent) := by
  cases c with
  | validateWager => cases h
  | placeWager => cases h
  | _ => rfl

/-- Calls that are no wagers are answered by the others alone. -/
lemma answered_of_not_isWager (hlog : ∀ entry ∈ log, entry.1.isWager = false)
    (h : Answered (replies.answer others) (s, sent) log t) :
    Answered others s log t.1 ∧ t.2 = sent := by
  induction log generalizing s with
  | nil =>
    rw [Dialogue.answered_nil] at h
    exact ⟨h ▸ .nil s, congrArg Prod.snd h⟩
  | cons entry log ih =>
    obtain ⟨c, reply⟩ := entry
    obtain ⟨hc, hrest⟩ := List.forall_mem_cons.1 hlog
    obtain ⟨hreply, hanswered⟩ := Dialogue.answered_cons.1 h
    rw [answer_of_not_isWager hc] at hreply hanswered
    obtain ⟨hothers, hsent⟩ := ih hrest hanswered
    exact ⟨Dialogue.answered_cons.2 ⟨hreply, hothers⟩, hsent⟩

/-- Whatever has been sent before, the requests of a wager follow. -/
lemma leadTo_of_wagerTalk {round : Round} {progress : Option Json}
    (talk : WagerTalk round log progress)
    (h : Answered (replies.answer others) (s, []) log t) : replies.LeadTo round progress t.2 := by
  obtain ⟨validated, rest, rfl, placement⟩ := talk
  obtain ⟨hvalidated, hrest⟩ := Dialogue.answered_cons.1 h
  have hreads := readReply_eq_ok_some validatePath replies.validated
  change validated = readReply validatePath replies.validated at hvalidated
  cases placement with
  | skipped hskipped =>
    have hnone : ∀ v, ¬Says replies.validated v := fun v hv =>
      hskipped v (hvalidated.trans ((hreads v).2 hv))
    rw [Dialogue.answered_nil] at hrest
    subst hrest
    constructor
    · simp [hnone]
    · intro v hv
      exact absurd hv (hnone v)
    · intro _
      rfl
  | placed validation reply =>
    have hvalidation : Says replies.validated validation := (hreads validation).1 hvalidated.symm
    obtain ⟨hreply, hend⟩ := Dialogue.answered_cons.1 hrest
    change reply = readPlaced replies.placed at hreply
    rw [Dialogue.answered_nil] at hend
    subst hend hreply
    constructor
    · intro p
      rw [progressOf_readPlaced]
      exact (and_iff_right ⟨validation, hvalidation⟩).symm
    · intro v hv
      cases hv.unique hvalidation
      cases round.outcome.win <;> rfl
    · intro hnone
      exact absurd hvalidation (hnone validation)

end

/-! ### Settlements with and without a wager service -/

lemma isWager_opening (o : OpeningReplies) (drawn : Round) (trace : Trace) :
    ∀ entry ∈ o.log drawn trace, entry.1.isWager = false := by
  simp [OpeningReplies.log, Call.isWager]

end Wager

/-- A settlement as it is without a wager service. -/
def Settlement.unwagered (s : Settlement) : Settlement := { s with progress := none }

/-- What follows the update of the balance is the wager, if anything. -/
lemma ClosingTalk.without_wager {round : Round} {updated : Except Failure Float}
    {log : Transcript Call.Reply} {result : Except SpinError Settlement}
    (talk : ClosingTalk true round updated log result) :
    ClosingTalk false round updated [] (result.map (·.unwagered)) ∧
    (∀ e, result = .error e → log = []) ∧
    ∀ settlement, result = .ok settlement →
      WagerTalk settlement.round log settlement.progress := by
  cases talk with
  | failed failure => exact ⟨.failed failure, fun _ _ => rfl, by simp⟩
  | unwagered _ h => cases h
  | wagered balance _ talk => exact ⟨.unwagered balance rfl, by simp, by rintro _ ⟨⟩; exact talk⟩

/-- A play without a wager service is said as the part of a play in which there is no wager. -/
lemma PlayTalk.without_wager {trace : Trace} {drawn : Except PlayError Round}
    {log : Transcript Call.Reply} {result : Except SpinError Settlement}
    (talk : PlayTalk true trace drawn log result) :
    ∃ before rest, log = before ++ rest ∧ (∀ entry ∈ before, entry.1.isWager = false) ∧
      PlayTalk false trace drawn before (result.map (·.unwagered)) ∧
      (∀ e, result = .error e → rest = []) ∧
      ∀ settlement, result = .ok settlement →
        WagerTalk settlement.round rest settlement.progress := by
  cases talk with
  | undrawn e =>
    exact ⟨[], [], rfl, List.forall_mem_nil _, .undrawn e, fun _ _ => rfl, by simp⟩
  | @drawn drawn _ _ talk =>
    obtain ⟨o, rest, rfl, closing⟩ := talk
    obtain ⟨hclosing, hrest⟩ := closing.without_wager
    exact ⟨o.log drawn trace, rest, rfl, Wager.isWager_opening o drawn trace,
      .drawn ⟨o, [], (List.append_nil _).symm, hclosing⟩, hrest⟩

/-! ### The main result -/

namespace Service

/-- Whatever the wager service replies to the requests of a settlement, and whatever round is
settled: the result is that of a settlement without a wager service, apart from the progress. So no
reply makes a play fail. Where the settlement succeeds, the replies alone lead to its progress. -/
theorem settleDrawn_wagers (engine : Engine) (drawn : Except PlayError Round) (trace : Trace)
    (replies : Wager.Replies) {σ : Type} (others : (c : Call) → StateM σ c.Reply)
    (recorder : Recorder) (state : σ) :
    let play (wagers : Bool) := Service.settleDrawn ⟨engine, wagers⟩ drawn trace
    let result := (play true).result (replies.answer others) recorder (state, [])
    let sent := ((play true).left (replies.answer others) recorder (state, [])).2
    (play false).result others recorder state = result.map (·.unwagered) ∧
    (∀ e, result = .error e → sent = []) ∧
    ∀ settlement, result = .ok settlement →
      replies.LeadTo settlement.round settlement.progress sent := by
  intro play result sent
  have htalk : PlayTalk true trace drawn _ result :=
    (settleDrawn_talk ⟨engine, true⟩ trace drawn).said _ _ recorder (state, [])
  have hanswered : Answered (replies.answer others) (state, []) _ _ :=
    (play true).answered_said (replies.answer others) recorder (state, [])
  obtain ⟨before, rest, hlog, hbefore, hplain, herror, hwager⟩ := htalk.without_wager
  rw [hlog, Dialogue.answered_append] at hanswered
  obtain ⟨⟨s, sent₁⟩, hanswered₁, hanswered₂⟩ := hanswered
  obtain ⟨hothers, rfl⟩ := Wager.answered_of_not_isWager hbefore hanswered₁
  refine ⟨?_, ?_, ?_⟩
  · exact (settleDrawn_talk ⟨engine, false⟩ trace drawn).result_eq _ _ recorder state hplain hothers
  · intro e he
    rw [herror e he, Dialogue.answered_nil] at hanswered₂
    exact congrArg Prod.snd hanswered₂
  · intro settlement hsettlement
    exact Wager.leadTo_of_wagerTalk (hwager settlement hsettlement) hanswered₂

/-- A wager of anna's win that is validated and placed: the ticket of the validation is handed on,
and what the second reply tells is the progress. -/
theorem settleDrawn_wagers_ofAnna :
    let ticket := Json.object [("ticket", .int 7)]
    let progress := Json.object [("stage", .string "half")]
    let told := Json.object [("wager_id", .int 3), ("wagering_progress", progress)]
    let replies : Wager.Replies :=
      ⟨some ⟨200, .ofString ticket.text⟩, some ⟨201, .ofString told.text⟩⟩
    let play := Service.settleDrawn ⟨.primeless, true⟩ (.ok .ofAnna) []
    let answer := replies.answer (House.answer .ordinary)
    ∃ settlement, play.result answer {} (House.fresh 1000.0, []) = .ok settlement ∧
      settlement.progress = some progress ∧
      (play.left answer {} (House.fresh 1000.0, [])).2 = [
        Wager.validateRequest settlement.round.userId settlement.round.bet gameId,
        ⟨"wager/place", .object [
          ("game_result", .string (if settlement.round.outcome.win then "win" else "lose")),
          ("payout", .float settlement.round.payout), ("validation_data", ticket)]⟩] := by
  intro ticket progress told replies play answer
  obtain ⟨hresult, -, hwager⟩ := settleDrawn_wagers .primeless (.ok .ofAnna) [] replies
    (House.answer .ordinary) {} (House.fresh 1000.0)
  have hticket : Json.ReadWith Json.maxDepth ticket :=
    ⟨by decide, List.pairwise_singleton _ _, ⟨by decide, by decide⟩, trivial⟩
  have hsorted :
      [("wager_id", Json.int 3), ("wagering_progress", progress)].Pairwise (·.1 < ·.1) := by
    decide
  have htold : Json.ReadWith Json.maxDepth told :=
    ⟨by decide, hsorted, ⟨by decide, by decide⟩, ⟨List.pairwise_singleton _ _, trivial, trivial⟩,
      trivial⟩
  have hvalidated : Wager.Says replies.validated ticket :=
    Wager.says_text hticket ⟨trivial, trivial, trivial⟩ (by decide) (by decide)
  have hplaced : Wager.Says replies.placed told :=
    Wager.says_text htold ⟨trivial, trivial, ⟨trivial, trivial, trivial⟩, trivial⟩ (by decide)
      (by decide)
  -- without a wager service the house settles the round
  obtain ⟨plain, hplain⟩ : ∃ settlement,
      (Service.settleDrawn ⟨.primeless, false⟩ (.ok .ofAnna) []).result (House.answer .ordinary) {}
        (House.fresh 1000.0) = .ok settlement := ⟨_, rfl⟩
  rw [hplain] at hresult
  cases hsettled : play.result answer {} (House.fresh 1000.0, []) with
  | error e =>
    rw [hsettled] at hresult
    cases hresult
  | ok settlement =>
    have hlead := hwager settlement hsettled
    exact ⟨settlement, rfl, (hlead.progress_iff progress).2
      ⟨⟨ticket, hvalidated⟩, _, hplaced, rfl, nofun⟩, hlead.placed ticket hvalidated⟩

end Service

end SlotMachine
