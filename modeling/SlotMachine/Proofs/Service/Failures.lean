import SlotMachine.Proofs.Service.House

/-!
# Plays that fail

What a play that fails has done before. Where no round is drawn, nobody has been asked for anything.
Where the update of the balance fails, the round has been handed in to be saved and its event to be
published, and neither is taken back; but no balance is changed, and no wager is placed.
-/

namespace SlotMachine

open Dialogue (Transcript Answered)

namespace Exchange

/-! ### What has been done -/

def savedRound? : (c : Call) × c.Reply → Option Round
  | ⟨.save _, .ok saved⟩ => some saved
  | _ => none

def publishedEvent? : (c : Call) × c.Reply → Option RoundEvent
  | ⟨.publish event, .ok ()⟩ => some event
  | _ => none

/-- The user with his balance, if a balance has been updated. -/
def newBalance? : (c : Call) × c.Reply → Option (String × Float)
  | ⟨.updateBalance userId _ _, .ok balance⟩ => some (userId, balance)
  | _ => none

/-- No round has been saved, no event published and no balance updated. -/
structure SettlesNothing (log : Transcript Call.Reply) : Prop where
  savedRounds : log.filterMap savedRound? = []
  publishedEvents : log.filterMap publishedEvent? = []
  newBalances : log.filterMap newBalance? = []

end Exchange

open Exchange (savedRound? publishedEvent? newBalance? SettlesNothing)

namespace OpeningReplies

variable (o : OpeningReplies) (drawn : Round) (trace : Trace)

lemma savedRounds_log : (o.log drawn trace).filterMap savedRound? = o.saved.toOption.toList := by
  obtain ⟨saved, _, _, _, _, _⟩ := o
  cases saved with
  | ok saved => rfl
  | error failure => rfl

lemma publishedEvents_log : (o.log drawn trace).filterMap publishedEvent? =
    (o.published.toOption.map fun _ => .ofRound (drawn.kept o.saved) trace).toList := by
  obtain ⟨_, published, _, _, _, _⟩ := o
  cases published with
  | ok _ => rfl
  | error failure => rfl

lemma newBalances_log : (o.log drawn trace).filterMap newBalance? =
    (o.updated.toOption.map fun balance => ((drawn.kept o.saved).userId, balance)).toList := by
  obtain ⟨_, _, _, _, _, updated⟩ := o
  cases updated with
  | ok balance => rfl
  | error failure => rfl

end OpeningReplies

section

variable {wagers : Bool} {trace : Trace} {log : Transcript Call.Reply} {e : SpinError}

/-- A play fails where nothing is drawn, or else where the balance is not updated. -/
lemma PlayTalk.of_error {drawn : Except PlayError Round}
    (h : PlayTalk wagers trace drawn log (.error e)) :
    (∃ reason, drawn = .error reason ∧ e = .ofPlayError reason ∧ log = []) ∨
    ∃ (round : Round) (o : OpeningReplies) (failure : Failure), drawn = .ok round ∧
      o.updated = .error failure ∧ e = .collaborator "balance update" failure ∧
      log = o.log round trace := by
  cases h with
  | undrawn reason => exact .inl ⟨reason, rfl, rfl, rfl⟩
  | drawn talk =>
    obtain ⟨o, rest, rfl, hclosing⟩ := talk
    obtain ⟨failure, hfailed, rfl, he⟩ | ⟨_, _, _, he⟩ := hclosing.of_updated
    · exact .inr ⟨_, o, failure, rfl, hfailed, Except.error.inj he, List.append_nil _⟩
    · cases he

/-- What only successful updates of balances change stays as it is where there are none. -/
lemma Exchange.view_eq_of_newBalances {σ β : Type} {answer : (c : Call) → StateM σ c.Reply}
    {view : σ → β} {state state' : σ}
    (hview : ∀ c s, newBalance? ⟨c, (answer c s).1⟩ = none → view (answer c s).2 = view s)
    (hlog : log.filterMap newBalance? = []) (hanswered : Answered answer state log state') :
    view state' = view state :=
  hanswered.view_eq fun c s hmem => hview c s (List.filterMap_eq_nil_iff.1 hlog _ hmem)

end

namespace Service

/-- If a play fails, no balance has been updated. It fails where nothing is drawn, and then nothing
is said at all; or where the round is handed in to be saved and its event to be published, once
each, and then the balance cannot be updated. What has been saved and published stays. -/
theorem play_fails (s : Service) (v : Visit) {σ : Type} (answer : (c : Call) → StateM σ c.Reply)
    (recorder : Recorder) (state : σ) {e : SpinError}
    (h : (s.exchange v).result answer recorder state = .error e) :
    let said := (s.exchange v).said answer recorder state
    (said.filterMap newBalance? = [] ∧
      ∀ {β : Type} (view : σ → β),
        (∀ c t, newBalance? ⟨c, (answer c t).1⟩ = none → view (answer c t).2 = view t) →
        view ((s.exchange v).left answer recorder state) = view state) ∧
    ((∃ reason, s.drawn v = .error reason ∧ e = .ofPlayError reason ∧ said = [] ∧
        (s.exchange v).left answer recorder state = state) ∨
      ∃ (round : Round) (o : OpeningReplies) (failure : Failure), s.drawn v = .ok round ∧
        o.updated = .error failure ∧ e = .collaborator "balance update" failure ∧
        said = o.log round v.trace ∧
        said.filterMap savedRound? = o.saved.toOption.toList ∧
        said.filterMap publishedEvent? =
          (o.published.toOption.map fun _ => .ofRound (round.kept o.saved) v.trace).toList) := by
  have htalk := s.visit_talk answer v recorder state
  have hanswered := Exchange.answered_said answer (s.exchange v) recorder state
  rw [h] at htalk
  dsimp only
  generalize (s.exchange v).said answer recorder state = said at htalk hanswered ⊢
  generalize (s.exchange v).left answer recorder state = state' at hanswered ⊢
  have hcases := htalk.of_error
  have hbalances : said.filterMap newBalance? = [] := by
    obtain ⟨_, -, -, rfl⟩ | ⟨round, o, failure, -, hupdated, -, rfl⟩ := hcases
    · rfl
    · rw [o.newBalances_log, hupdated]
      rfl
  refine ⟨⟨hbalances, fun view hview => ?_⟩, ?_⟩
  · exact Exchange.view_eq_of_newBalances hview hbalances hanswered
  · obtain ⟨reason, hreason, he, rfl⟩ | ⟨round, o, failure, hround, hupdated, he, hsaid⟩ := hcases
    · exact .inl ⟨reason, hreason, he, rfl, Dialogue.answered_nil.1 hanswered⟩
    · refine .inr ⟨round, o, failure, hround, hupdated, he, hsaid, ?_, ?_⟩
      · rw [hsaid, o.savedRounds_log]
      · rw [hsaid, o.publishedEvents_log]

end Service

/-! ### A house that cannot write its accounts -/

def House.answerUnwritable (around : Surroundings) : (c : Call) → StateM House c.Reply
  | .updateBalance _ _ _ => fun h => (.error ⟨["disk full"]⟩, h.called)
  | c => House.answer around c

lemma House.balance_answerUnwritable (around : Surroundings) (c : Call) (h : House)
    (userId : String) :
    (answerUnwritable around c h).2.store.balance userId = h.store.balance userId := by
  cases c with
  | save round => exact congrArg (·.accounts.balance userId) (books_answer (.save round) h)
  | getBalance other => exact Store.balance_getBalance
  | _ => rfl

namespace Service

lemma result_unwritable :
    (primeless.exchange .ofAnna).result (House.answerUnwritable .ordinary) {} (.fresh 1000.0) =
      .error (.collaborator "balance update" ⟨["disk full"]⟩) := by
  rw [exchange_eq, drawn_ofAnna]
  rfl

/-- A play that fails leaves its round with those who keep rounds, and its event with those who
listen. -/
theorem play_fails_unsettled :
    let answer := House.answerUnwritable .ordinary
    let house := (primeless.exchange .ofAnna).left answer {} (.fresh 1000.0)
    (primeless.exchange .ofAnna).result answer {} (.fresh 1000.0) =
      .error (.collaborator "balance update" ⟨["disk full"]⟩) ∧
    ¬SettlesNothing ((primeless.exchange .ofAnna).said answer {} (.fresh 1000.0)) ∧
    house.store.rounds = [Round.ofAnna.withId "0"] ∧
    house.events = [.ofRound (Round.ofAnna.withId "0") []] := by
  refine ⟨result_unwritable, fun h => ?_, ?_, ?_⟩
  · have hsaved := h.savedRounds
    rw [exchange_eq, drawn_ofAnna] at hsaved
    cases hsaved
  · rw [exchange_eq, drawn_ofAnna]
    rfl
  · rw [exchange_eq, drawn_ofAnna]
    rfl

/-- The balances of such a house stay as they are. -/
theorem play_fails_ofAnna :
    let answer := House.answerUnwritable .ordinary
    (primeless.exchange .ofAnna).result answer {} (.fresh 1000.0) =
      .error (.collaborator "balance update" ⟨["disk full"]⟩) ∧
    ((primeless.exchange .ofAnna).left answer {} (.fresh 1000.0)).store.balance "anna" =
      1000.0 := by
  refine ⟨result_unwritable, ?_⟩
  have hfails := primeless.play_fails .ofAnna (House.answerUnwritable .ordinary) {}
    (.fresh 1000.0) result_unwritable
  obtain ⟨⟨-, hview⟩, -⟩ := hfails
  exact hview (fun house => house.store.balance "anna") fun c house _ =>
    house.balance_answerUnwritable .ordinary c "anna"

end Service

end SlotMachine
