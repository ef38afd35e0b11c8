import SlotMachine.Proofs.Service.Visits

/-!
# What is recorded in a visit

The recorder is changed by an exchange alone, never by those who are asked. What it holds after a
visit follows from what it held before and from what was said: whatever else is replied, only the
saved round and the two statistics go into it, and whether the play has failed.

`Records` adds the recorder to what `Speaks` says of an exchange. Its main result, `visit_records`,
gives all that a visit can do to the recorder.
-/

namespace SlotMachine

open Dialogue (Transcript)

variable {α β : Type}

namespace Exchange

/-- Whatever is replied, what is recorded before and after is admitted along with what is said and
with what comes of it. -/
def Records (x : Exchange α)
    (T : Recorder → Transcript Call.Reply → α → Recorder → Prop) : Prop :=
  ∀ recorder log a recorder', (x recorder).Yields log (a, recorder') → T recorder log a recorder'

/-- Nothing is recorded. -/
def Unrecorded (x : Exchange α) : Prop :=
  x.Records fun recorder _ _ recorder' => recorder' = recorder

variable {T : Recorder → Transcript Call.Reply → α → Recorder → Prop} {x : Exchange α}
  {f : α → Exchange β}

lemma Records.bind {U : α → Recorder → Transcript Call.Reply → β → Recorder → Prop}
    (hx : x.Records T) (hf : ∀ a, (f a).Records (U a)) :
    (x >>= f).Records fun recorder log b recorder' => ∃ a middle log₁ log₂, log = log₁ ++ log₂ ∧
      T recorder log₁ a middle ∧ U a middle log₂ b recorder' := by
  intro recorder log b recorder' h
  obtain ⟨⟨a, middle⟩, log₁, log₂, rfl, h₁, h₂⟩ := Dialogue.yields_bind.1 h
  exact ⟨a, middle, log₁, log₂, rfl, hx _ _ _ _ h₁, hf a _ _ _ _ h₂⟩

/-- Where nothing is recorded, it is enough to know what is said. -/
lemma Unrecorded.records {S : Transcript Call.Reply → α → Prop} (hx : x.Unrecorded)
    (hspeaks : x.Speaks S) :
    x.Records fun recorder log a recorder' => S log a ∧ recorder' = recorder :=
  fun recorder log a recorder' h =>
    ⟨(hspeaks recorder log a).1 ⟨recorder', h⟩, hx recorder log a recorder' h⟩

lemma Unrecorded.bind (hx : x.Unrecorded) (hf : ∀ a, (f a).Unrecorded) :
    (x >>= f).Unrecorded := by
  intro recorder log b recorder' h
  obtain ⟨a, middle, _, _, -, hmiddle, hend⟩ := Records.bind hx hf _ _ _ _ h
  exact hend.trans hmiddle

lemma unrecorded_pure (a : α) : Unrecorded (pure a) := by
  intro recorder log b recorder' h
  exact congrArg Prod.snd (Dialogue.yields_done.1 h).2

lemma unrecorded_ask (c : Call) : Unrecorded (ask c) := by
  intro recorder log reply recorder' h
  obtain ⟨_, _, -, h'⟩ := Dialogue.yields_ask.1 h
  exact congrArg Prod.snd (Dialogue.yields_done.1 h').2

lemma records_modify (g : Recorder → Recorder) :
    Records (modify g) fun recorder log _ recorder' => log = [] ∧ recorder' = g recorder := by
  intro recorder log _ recorder' h
  obtain ⟨hlog, hrecorder⟩ := Dialogue.yields_done.1 h
  exact ⟨hlog, congrArg Prod.snd hrecorder⟩

end Exchange

/-! ### What a settlement records -/

namespace Recorder

variable (r : Recorder)

def withRound (round : Round) : Recorder :=
  (((r.recordSpin round.outcome.win round.bet round.payout).track BusinessMetric.betVolume
    round.bet).track BusinessMetric.payoutVolume round.payout).track BusinessMetric.winRate
    (if round.outcome.win then 100.0 else 0.0)

/-- The recorder when a session has been asked for; without statistics nothing is recorded. -/
def withSession (session : Except Failure (Option SessionStats)) : Recorder :=
  match session with
  | .ok (some stats) => (r.trackRtp stats.totalBets stats.totalPayouts "session").2
  | _ => r

/-- The recorder when the last day has been asked for. -/
def withRolling (rolling : Except Failure (Option RollingStats)) : Recorder :=
  match rolling with
  | .ok (some stats) =>
    ((r.trackRtp stats.totalBets stats.totalPayouts "24h").2.trackChecked BusinessMetric.rtpRolling
      (rtpPercent stats.totalBets stats.totalPayouts)).2
  | _ => r

/-- The recorder when a drawn round has been measured. -/
def measured (o : OpeningReplies) (drawn : Round) : Recorder :=
  ((r.withRound (drawn.kept o.saved)).withSession o.session).withRolling o.rolling

/-- The recorder when a play has come to an end. -/
def closed (result : Except SpinError α) : Recorder :=
  match result with
  | .ok _ => r
  | .error _ => r.recordFailure

end Recorder

namespace Exchange

variable (round : Round)

lemma persist_unrecorded : (persist round).Unrecorded := by
  apply (unrecorded_ask _).bind
  intro saved
  cases saved with
  | ok saved => exact unrecorded_pure saved
  | error _ => exact unrecorded_pure round

lemma applyBalance_unrecorded : (applyBalance round).Unrecorded :=
  (unrecorded_ask _).bind fun _ => unrecorded_ask _

lemma wager_unrecorded : (wager round).Unrecorded := by
  apply (unrecorded_ask _).bind
  intro validated
  match validated with
  | .ok (some validation) =>
    apply (unrecorded_ask _).bind
    intro placed
    match placed with
    | .ok (some placed) => exact unrecorded_pure placed.progress
    | .ok none => exact unrecorded_pure none
    | .error _ => exact unrecorded_pure none
  | .ok none => exact unrecorded_pure none
  | .error _ => exact unrecorded_pure none

lemma recordRound_records : (recordRound round).Records fun recorder log _ recorder' =>
    log = [] ∧ recorder' = recorder.withRound round :=
  records_modify fun recorder => recorder.withRound round

/-- One call, of which only the reply decides what is recorded. -/
lemma records_of_ask {c : Call} {f : c.Reply → Exchange Unit} {g : c.Reply → Recorder → Recorder}
    (hf : ∀ reply, (f reply).Records fun recorder log _ recorder' =>
      log = [] ∧ recorder' = g reply recorder) :
    (ask c >>= f).Records fun recorder log _ recorder' =>
      ∃ reply, log = [⟨c, reply⟩] ∧ recorder' = g reply recorder := by
  intro recorder log _ recorder' h
  obtain ⟨_, _, _, _, rfl, ⟨⟨reply, rfl, rfl⟩, rfl⟩, rfl, rfl⟩ :=
    ((unrecorded_ask c).records (asks_ask c)).bind hf _ _ _ _ h
  exact ⟨_, rfl, rfl⟩

lemma recordSession_records : (recordSession round).Records fun recorder log _ recorder' =>
    ∃ session, log = [⟨.sessionStats round.userId 1, session⟩] ∧
      recorder' = recorder.withSession session := by
  apply records_of_ask
  intro session
  match session with
  | .ok (some stats) => exact records_modify _
  | .ok none => exact records_modify id
  | .error _ => exact records_modify id

lemma recordRolling_records : recordRolling.Records fun recorder log _ recorder' =>
    ∃ rolling, log = [⟨.rollingStats 24, rolling⟩] ∧
      recorder' = recorder.withRolling rolling := by
  apply records_of_ask
  intro rolling
  match rolling with
  | .ok (some stats) => exact records_modify _
  | .ok none => exact records_modify id
  | .error _ => exact records_modify id

end Exchange

open Exchange

/-! ### What a visit records -/

/-- What is drawn and said in a play, what comes of it, and what it does to the recorder. -/
inductive Recording (wagers : Bool) (trace : Trace) (recorder : Recorder) :
    Except PlayError Round → Transcript Call.Reply → Except SpinError Settlement → Recorder → Prop
  | undrawn (e : PlayError) :
      Recording wagers trace recorder (.error e) [] (.error (.ofPlayError e)) recorder.recordFailure
  | drawn {round : Round} {o : OpeningReplies} {rest : Transcript Call.Reply}
      {result : Except SpinError Settlement}
      (closing : ClosingTalk wagers (round.kept o.saved) o.updated rest result) :
      Recording wagers trace recorder (.ok round) (o.log round trace ++ rest) result
        ((recorder.measured o round).closed result)

namespace Service

variable (s : Service)

lemma close_unrecorded (round : Round) (updated : Except Failure Float) :
    (s.close round updated).Unrecorded := by
  cases updated with
  | error failure => exact unrecorded_pure _
  | ok balance =>
    cases hw : s.wagers with
    | false =>
      simp only [close, hw]
      exact (unrecorded_pure none).bind fun _ => unrecorded_pure _
    | true =>
      simp only [close, hw]
      exact (wager_unrecorded round).bind fun _ => unrecorded_pure _

lemma settle_records (drawn : Round) (trace : Trace) :
    (s.settle drawn trace).Records fun recorder log result recorder' =>
      ∃ (o : OpeningReplies) (rest : Transcript Call.Reply), log = o.log drawn trace ++ rest ∧
        ClosingTalk s.wagers (drawn.kept o.saved) o.updated rest result ∧
        recorder' = recorder.measured o drawn := by
  rw [settle_eq]
  intro recorder log result recorder' h
  obtain ⟨_, _, _, _, rfl, ⟨⟨saved, rfl, rfl⟩, rfl⟩, _, _, _, _, rfl, ⟨⟨published, rfl, -⟩, rfl⟩,
    _, _, _, _, rfl, ⟨rfl, rfl⟩, _, _, _, _, rfl, ⟨session, rfl, rfl⟩, _, _, _, _, rfl,
    ⟨rolling, rfl, rfl⟩, updated, _, _, rest, rfl, ⟨⟨balance, rfl⟩, rfl⟩, hclosing, rfl⟩ :=
    (((persist_unrecorded drawn).records (persist_asks drawn)).bind fun round =>
      ((unrecorded_ask (.publish (.ofRound round trace))).records (asks_ask _)).bind fun _ =>
      (recordRound_records round).bind fun _ => (recordSession_records round).bind fun _ =>
      recordRolling_records.bind fun _ =>
      ((applyBalance_unrecorded round).records (applyBalance_speaks round)).bind fun updated =>
      (s.close_unrecorded round updated).records (s.close_speaks round updated)) _ _ _ _ h
  exact ⟨⟨saved, published, session, rolling, balance, updated⟩, rest, rfl, hclosing, rfl⟩

/-- A play that fails is counted, after all else that is recorded of it. -/
lemma counted_records {x : Exchange (Except SpinError α)}
    {T : Recorder → Transcript Call.Reply → Except SpinError α → Recorder → Prop}
    (hx : x.Records T) :
    (counted x).Records fun recorder log result recorder' => ∃ middle,
      T recorder log result middle ∧ recorder' = middle.closed result := by
  have hcount : ∀ result : Except SpinError α, Records (do
      match result with
      | .ok _ => pure ()
      | .error _ => modify Recorder.recordFailure
      pure result) fun recorder log result' recorder' =>
        log = [] ∧ result' = result ∧ recorder' = recorder.closed result := by
    intro result recorder log result' recorder' h
    cases result with
    | ok a =>
      obtain ⟨hlog, hresult⟩ := Dialogue.yields_done.1 h
      exact ⟨hlog, congrArg Prod.fst hresult, congrArg Prod.snd hresult⟩
    | error e =>
      obtain ⟨hlog, hresult⟩ := Dialogue.yields_done.1 h
      exact ⟨hlog, congrArg Prod.fst hresult, congrArg Prod.snd hresult⟩
  intro recorder log result recorder' h
  obtain ⟨_, middle, log₁, _, rfl, hT, rfl, rfl, rfl⟩ := hx.bind hcount _ _ _ _ h
  rw [List.append_nil]
  exact ⟨middle, hT, rfl⟩

lemma settleDrawn_records (drawn : Except PlayError Round) (trace : Trace) :
    (s.settleDrawn drawn trace).Records fun recorder log result recorder' =>
      Recording s.wagers trace recorder drawn log result recorder' := by
  intro recorder log result recorder' h
  cases drawn with
  | error e =>
    obtain ⟨_, ⟨⟨rfl, rfl⟩, rfl⟩, rfl⟩ := counted_records
      ((unrecorded_pure _).records (silent_pure _)) _ _ _ _ h
    exact .undrawn e
  | ok round =>
    obtain ⟨_, ⟨o, rest, rfl, hclosing, rfl⟩, rfl⟩ :=
      counted_records (s.settle_records round trace) _ _ _ _ h
    exact .drawn hclosing

/-- Whoever answers, a visit records what it should. -/
lemma visit_records {σ : Type} (answer : (c : Call) → StateM σ c.Reply) (v : Visit)
    (recorder : Recorder) (state : σ) :
    Recording s.wagers v.trace recorder (s.drawn v)
      ((s.exchange v).said answer recorder state) ((s.exchange v).result answer recorder state)
      ((s.exchange v).recorded answer recorder state) := by
  rw [exchange_eq]
  generalize s.drawn v = drawn
  exact s.settleDrawn_records drawn v.trace recorder _ _ _
    (Dialogue.yields_transcript (s.settleDrawn drawn v.trace recorder) state)

end Service

end SlotMachine
