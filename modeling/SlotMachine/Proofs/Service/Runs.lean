import SlotMachine.Proofs.Dialogue.Answered
import SlotMachine.Proofs.Service.Calls
import SlotMachine.Proofs.Spin.Cancellation
import SlotMachine.Proofs.Spin.Outcome

/-!
# Exchanges that are carried out

The collaborators answer from a state, which may be anything and which any call may change, so that
they may behave in any way whatever. What `Speaks` says of an exchange then holds of what is said
and of what comes of it.
-/

namespace SlotMachine

open Dialogue (Transcript Answered)

namespace Exchange

variable {α σ : Type} (answer : (c : Call) → StateM σ c.Reply) (x : Exchange α)
  (recorder : Recorder) (state : σ)

/-- What comes of an exchange. -/
def result : α := ((x recorder).run answer state).1.1

/-- What is said in an exchange. -/
def said : Transcript Call.Reply := (x recorder).transcript answer state

/-- What has been recorded by the end of an exchange. -/
def recorded : Recorder := ((x recorder).run answer state).1.2

/-- The state in which an exchange leaves the collaborators. -/
def left : σ := ((x recorder).run answer state).2

lemma answered_said :
    Answered answer state (x.said answer recorder state) (x.left answer recorder state) :=
  Dialogue.answered_transcript (x recorder) state

lemma Speaks.said {T : Transcript Call.Reply → α → Prop} (hx : x.Speaks T) :
    T (x.said answer recorder state) (x.result answer recorder state) :=
  (hx recorder _ _).1 ⟨_, Dialogue.yields_transcript (x recorder) state⟩

/-- A transcript that is admitted and answered is that of the run. -/
lemma Speaks.result_eq {T : Transcript Call.Reply → α → Prop} (hx : x.Speaks T)
    {log : Transcript Call.Reply} {a : α} (hT : T log a) {state' : σ}
    (hanswered : Answered answer state log state') : x.result answer recorder state = a := by
  obtain ⟨recorder', h⟩ := (hx recorder log a).2 hT
  obtain ⟨-, hresult, -⟩ := h.eq_of_answered hanswered
  exact (congrArg Prod.fst hresult).symm

/-! ### Telling the result in another way -/

variable {β : Type} (f : α → β)

/-- The result is taken on after the last reply. -/
lemma map_run : ((f <$> x) recorder).run answer state =
    ((f (x.result answer recorder state), x.recorded answer recorder state),
      x.left answer recorder state) :=
  Dialogue.run_bind (x recorder) _ state

@[simp] lemma result_map :
    (f <$> x).result answer recorder state = f (x.result answer recorder state) :=
  congrArg (·.1.1) (x.map_run answer recorder state f)

@[simp] lemma recorded_map :
    (f <$> x).recorded answer recorder state = x.recorded answer recorder state :=
  congrArg (·.1.2) (x.map_run answer recorder state f)

@[simp] lemma left_map : (f <$> x).left answer recorder state = x.left answer recorder state :=
  congrArg (·.2) (x.map_run answer recorder state f)

@[simp] lemma said_map : (f <$> x).said answer recorder state = x.said answer recorder state :=
  (Dialogue.transcript_bind (x recorder) _ state).trans (List.append_nil _)

end Exchange

namespace OpeningReplies

variable {σ : Type} {answer : (c : Call) → StateM σ c.Reply} {o : OpeningReplies} {drawn : Round}
  {trace : Trace} {rest : Transcript Call.Reply} {state state' : σ}

/-- The round is saved first, and what is replied to the update is answered when all else in the
opening has been said. -/
lemma answered_of_log (h : Answered answer state (o.log drawn trace ++ rest) state') :
    o.saved = (answer (.save drawn) state).1 ∧
    ∃ s, Answered answer state (o.log drawn trace).dropLast s ∧
      o.updated = (answer (.updateBalance (drawn.kept o.saved).userId (drawn.kept o.saved).bet
        (drawn.kept o.saved).payout) s).1 := by
  constructor
  · exact (Dialogue.answered_cons.1 h).1
  · have hsplit : o.log drawn trace ++ rest = (o.log drawn trace).dropLast ++
        ⟨.updateBalance (drawn.kept o.saved).userId (drawn.kept o.saved).bet
          (drawn.kept o.saved).payout, o.updated⟩ :: rest := rfl
    rw [hsplit] at h
    obtain ⟨s, hopening, hrest⟩ := Dialogue.answered_append.1 h
    exact ⟨s, hopening, (Dialogue.answered_cons.1 hrest).1⟩

end OpeningReplies

/-- Whatever else is said, the answer to the update decides what comes of a settlement. -/
lemma ClosingTalk.of_updated {wagers : Bool} {round : Round} {updated : Except Failure Float}
    {log : Transcript Call.Reply} {result : Except SpinError Settlement}
    (h : ClosingTalk wagers round updated log result) :
    (∃ failure, updated = .error failure ∧ log = [] ∧
      result = .error (.collaborator "balance update" failure)) ∨
    ∃ balance progress, updated = .ok balance ∧ result = .ok ⟨round, balance, progress⟩ := by
  cases h with
  | failed failure => exact .inl ⟨failure, rfl, rfl, rfl⟩
  | unwagered balance _ => exact .inr ⟨balance, none, rfl, rfl⟩
  | wagered balance _ _ => exact .inr ⟨balance, _, rfl, rfl⟩

/-- What is said in a play of which that has been drawn, and what comes of it. -/
inductive PlayTalk (wagers : Bool) (trace : Trace) :
    Except PlayError Round → Transcript Call.Reply → Except SpinError Settlement → Prop
  | undrawn (e : PlayError) : PlayTalk wagers trace (.error e) [] (.error (.ofPlayError e))
  | drawn {round : Round} {log : Transcript Call.Reply} {result : Except SpinError Settlement}
      (talk : SettlementTalk wagers round trace log result) :
      PlayTalk wagers trace (.ok round) log result

lemma PlayTalk.ne_cancelled {wagers : Bool} {trace : Trace} {drawn : Except PlayError Round}
    {log : Transcript Call.Reply} {result : Except SpinError Settlement}
    (h : PlayTalk wagers trace drawn log result)
    (hdrawn : drawn ≠ .error (.interrupted .cancelled)) : result ≠ .error .cancelled := by
  cases h with
  | undrawn e =>
    intro hresult
    rcases e with reason | (_ | _)
    · cases hresult
    · exact hdrawn rfl
    · cases hresult
  | drawn talk =>
    obtain ⟨o, rest, -, hclosing⟩ := talk
    obtain ⟨failure, -, -, rfl⟩ | ⟨balance, progress, -, rfl⟩ := hclosing.of_updated
    · intro hresult
      cases hresult
    · intro hresult
      cases hresult

namespace Service

variable {σ : Type} (s : Service) (answer : (c : Call) → StateM σ c.Reply) (request : PlayRequest)
  (trace : Trace) (now : Instant) (chance : Chance) (meter : Meter) (recorder : Recorder)
  (state : σ)

lemma settleDrawn_talk (drawn : Except PlayError Round) :
    (s.settleDrawn drawn trace).Speaks (PlayTalk s.wagers trace drawn) := by
  refine (s.settleDrawn_speaks drawn trace).congr fun log result => ?_
  cases drawn with
  | error e =>
    constructor
    · rintro ⟨rfl, rfl⟩
      exact .undrawn e
    · rintro ⟨⟩
      exact ⟨rfl, rfl⟩
  | ok round =>
    constructor
    · exact .drawn
    · rintro (_ | talk)
      exact talk

/-- However the collaborators answer, a play is said as it should. -/
lemma play_talk :
    PlayTalk s.wagers trace (s.engine.playRound request.toSpinRequest now chance meter).1
      ((s.play request trace now chance meter).1.said answer recorder state)
      ((s.play request trace now chance meter).1.result answer recorder state) := by
  rw [play_apply]
  exact (s.settleDrawn_talk trace _).said answer _ recorder state

/-- As long as the flag stays down, no play is cancelled. -/
lemma play_ne_cancelled (hflag : chance.Unraised) :
    (s.play request trace now chance meter).1.result answer recorder state ≠ .error .cancelled :=
  (s.play_talk answer request trace now chance meter recorder state).ne_cancelled
    (s.engine.playRound_avoids request.toSpinRequest now chance meter hflag)

/-- The words of a play are those of its round. -/
lemma play_meter (engine : Engine) (wagers : Bool) :
    (Service.play ⟨engine, wagers⟩ request trace now chance meter).2 =
      (engine.playRound request.toSpinRequest now chance meter).2 := by
  simp only [play, Draw.bind_apply, Draw.pure_apply, ExceptT.run]

end Service

/-! ### A round that is won -/

/-- A request with blanks around the user id. -/
def PlayRequest.ofAnna : PlayRequest where
  userId := " anna "
  bet := 10.0

/-- Three cherries, which pay twice the bet. -/
def Round.ofAnna : Round where
  id := none
  userId := "anna"
  bet := 10.0
  outcome := .winning .cherry .reference
  payout := 20.0
  time := ⟨0, 0⟩

lemma playRound_ofAnna :
    (Engine.primeless.playRound PlayRequest.ofAnna.toSpinRequest ⟨0, 0⟩ (.still 0) {}).1 =
      .ok .ofAnna := rfl

end SlotMachine
