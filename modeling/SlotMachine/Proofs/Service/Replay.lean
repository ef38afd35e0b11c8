import Mathlib.Data.List.Induction
import SlotMachine.Proofs.Service.House
import SlotMachine.Proofs.Text.Trim

/-!
# Balances from events

The events that a house has published tell all of its balances: whoever settles them one after the
other, each at the balance of its user, comes to the same balances that the house has, and on the
way past every balance that it has told.

The invariant is `Replays`, about the books of the house alone. What a visit does to them keeps it
(`Booked.replays`).
-/

namespace SlotMachine

/-- The balance that the events of a user make, one after the other; there is none before the first.
-/
def replayed? (default : Float) (userId : String) (events : List RoundEvent) : Option Float :=
  events.foldl (fun balance e =>
    if e.round.userId = userId then
      some (Store.settledBalance default (balance.getD default) e.round.bet e.round.payout)
    else balance) none

lemma replayed?_append (default : Float) (userId : String) (events : List RoundEvent)
    (e : RoundEvent) :
    replayed? default userId (events ++ [e]) =
      if e.round.userId = userId then
        some (Store.settledBalance default ((replayed? default userId events).getD default)
          e.round.bet e.round.payout)
      else replayed? default userId events := by
  simp only [replayed?, List.foldl_append, List.foldl_cons, List.foldl_nil]

namespace Books

/-- The accounts are those that the events make. -/
structure Replays (default : Float) (b : Books) : Prop where
  default_eq : b.accounts.defaultBalance = default
  lookup_eq : ∀ userId, b.accounts.balances.lookup userId = replayed? default userId b.events

lemma Replays.balance_eq {default : Float} {b : Books} (h : b.Replays default) (userId : String) :
    b.accounts.balance userId = (replayed? default userId b.events).getD default := by
  simp only [Store.balance, h.lookup_eq, h.default_eq]

/-- Settling a round tells and leaves what its event makes of the events before it. -/
lemma Replays.settle {default : Float} {b : Books} (h : b.Replays default) (e : RoundEvent) :
    some (b.settle e.round).1 = replayed? default e.round.userId (b.events ++ [e]) ∧
    Replays default ⟨(b.settle e.round).2, b.events ++ [e]⟩ := by
  have htold : (b.settle e.round).1 = Store.settledBalance default
      ((replayed? default e.round.userId b.events).getD default) e.round.bet e.round.payout := by
    rw [← h.balance_eq, ← h.default_eq]
    exact congrArg (Store.settledBalance _ · _ _) Store.balance_getBalance
  refine ⟨?_, h.default_eq, fun userId => ?_⟩
  · rw [replayed?_append, if_pos rfl, htold]
  · rw [replayed?_append]
    refine Store.lookup_updateBalance.trans ?_
    by_cases huser : e.round.userId = userId
    · rw [if_pos huser, if_pos huser.symm, ← huser, ← htold]
      rfl
    · rw [if_neg huser, if_neg (Ne.symm huser), Store.lookup_getBalance, if_neg (Ne.symm huser)]
      exact h.lookup_eq userId

end Books

lemma Booked.replays {default : Float} {trace : Trace} {b b' : Books}
    {drawn : Except PlayError Round} {result : Except SpinError Settlement}
    (h : Booked trace b drawn result b') (hb : b.Replays default) : b'.Replays default := by
  cases h with
  | undrawn e => exact hb
  | settled _ _ => exact (hb.settle (.ofRound _ trace)).2

/-- The balance that is told is what the new event makes of the events before it. -/
lemma Booked.told {default : Float} {trace : Trace} {b b' : Books} {drawn : Round}
    {result : Except SpinError Settlement} (h : Booked trace b (.ok drawn) result b')
    (hb : b.Replays default) :
    ∃ settlement, result = .ok settlement ∧ settlement.round.SameButId drawn ∧
      b'.events = b.events ++ [.ofRound settlement.round trace] ∧
      some settlement.newBalance = replayed? default settlement.round.userId b'.events := by
  cases h with
  | settled progress hround =>
    exact ⟨_, rfl, hround, rfl, (hb.settle (.ofRound _ trace)).1⟩

namespace Service

variable (s : Service) (around : Surroundings) (default : Float) (recorder : Recorder)

/-- The recorder and the house after visits to a house that was fresh. -/
def houseAfter (visits : List Visit) : Recorder × House :=
  s.afterVisits (House.answer around) visits (recorder, .fresh default)

lemma houseAfter_append (visits : List Visit) (v : Visit) :
    (s.houseAfter around default recorder (visits ++ [v])).2 =
      (s.exchange v).left (House.answer around) (s.houseAfter around default recorder visits).1
        (s.houseAfter around default recorder visits).2 := by
  simp only [houseAfter, afterVisits_append, afterVisit]

lemma houseAfter_replays (visits : List Visit) :
    (s.houseAfter around default recorder visits).2.books.Replays default := by
  induction visits using List.reverseRecOn with
  | nil => exact ⟨rfl, fun _ => rfl⟩
  | append_singleton visits v ih =>
    rw [houseAfter_append]
    exact (s.visit_booked v around _ _).replays ih

/-- After any visits the events of the house make the balances that it holds, of every user: there
is none before his first event. Whether a next visit is settled, with a balance that its event
makes of the events before it, or does nothing to events and balances, is a matter of what is drawn.
Blanks around a user id make no difference. -/
theorem balances_replay (visits : List Visit) :
    let state := s.houseAfter around default recorder visits
    (∀ userId, state.2.store.balances.lookup userId = replayed? default userId state.2.events) ∧
    ∀ v,
      let result := (s.exchange v).result (House.answer around) state.1 state.2
      let next := (s.exchange v).left (House.answer around) state.1 state.2
      (∀ drawn, s.drawn v = .ok drawn → ∃ settlement, result = .ok settlement ∧
        settlement.round.SameButId drawn ∧
        settlement.round.userId = trim v.request.userId ∧
        next.events = state.2.events ++ [.ofRound settlement.round v.trace] ∧
        some settlement.newBalance = replayed? default settlement.round.userId next.events) ∧
      (∀ e, s.drawn v = .error e → result = .error (.ofPlayError e) ∧
        next.events = state.2.events ∧ next.store.balances = state.2.store.balances) ∧
      ∀ before after : String, (∀ c ∈ before.toList, isBlank c = true) →
        (∀ c ∈ after.toList, isBlank c = true) →
        s.exchange (v.withUser (before ++ v.request.userId ++ after)) = s.exchange v := by
  intro state
  have hreplays : state.2.books.Replays default :=
    s.houseAfter_replays around default recorder visits
  refine ⟨hreplays.lookup_eq, fun v => ?_⟩
  have hbooked := s.visit_booked v around state.1 state.2
  clear_value state
  dsimp only
  generalize (s.exchange v).result (House.answer around) state.1 state.2 = result at hbooked ⊢
  generalize (s.exchange v).left (House.answer around) state.1 state.2 = next at hbooked ⊢
  refine ⟨fun drawn hdrawn => ?_, fun e he => ?_, fun before after hbefore hafter => ?_⟩
  · rw [hdrawn] at hbooked
    obtain ⟨settlement, hresult, hround, hevents, hbalance⟩ := hbooked.told hreplays
    have huser := hround.userId.trans (drawn_userId hdrawn)
    exact ⟨settlement, hresult, hround, huser, hevents, hbalance⟩
  · rw [he] at hbooked
    obtain ⟨hresult, hbooks⟩ := hbooked.of_undrawn
    exact ⟨hresult, congrArg Books.events hbooks, congrArg (·.accounts.balances) hbooks⟩
  · exact s.exchange_withUser (trim_append hbefore hafter _)

end Service

/-! ### The first visits to a house -/

/-- A visit at which a name is not given. -/
def Visit.nameless : Visit := Visit.ofAnna.withUser " "

namespace Service

lemma drawn_nameless : primeless.drawn .nameless = .error (.refused .missingUser) := rfl

/-- After a request that is refused, Anna plays in a house where nothing has been published. -/
theorem balances_replay_ofAnna :
    let state := primeless.houseAfter .ordinary 1000.0 {} [.nameless]
    primeless.drawn .nameless = .error (.refused .missingUser) ∧ state.2.events = [] ∧
    primeless.drawn .ofAnna = .ok .ofAnna ∧
    (∃ settlement,
      (primeless.exchange .ofAnna).result (House.answer .ordinary) state.1 state.2 =
        .ok settlement ∧
      settlement.round.userId = "anna" ∧ settlement.newBalance = 1010.0) ∧
    primeless.exchange (Visit.ofAnna.withUser ("\t" ++ " anna " ++ " ")) =
      primeless.exchange .ofAnna := by
  have hevents : (primeless.houseAfter .ordinary 1000.0 {} [.nameless]).2.events = [] := by
    obtain ⟨-, hvisits⟩ := primeless.balances_replay .ordinary 1000.0 {} []
    obtain ⟨-, hrefused, -⟩ := hvisits .nameless
    rw [← List.nil_append [Visit.nameless], houseAfter_append]
    exact (hrefused _ drawn_nameless).2.1
  obtain ⟨-, hvisits⟩ := primeless.balances_replay .ordinary 1000.0 {} [.nameless]
  obtain ⟨hsettled, -, hblanks⟩ := hvisits .ofAnna
  obtain ⟨settlement, hresult, hround, -, hnext, hbalance⟩ := hsettled _ drawn_ofAnna
  refine ⟨drawn_nameless, hevents, drawn_ofAnna, ⟨settlement, hresult, hround.userId, ?_⟩,
    hblanks "\t" " " (List.all_eq_true.1 rfl) (List.all_eq_true.1 rfl)⟩
  rw [hnext, hevents, replayed?_append, RoundEvent.ofRound, if_pos rfl, hround.bet,
    hround.payout] at hbalance
  have hwin : Store.settledBalance 1000.0 1000.0 10.0 20.0 = 1010.0 := rfl
  exact (Option.some.inj hbalance).trans hwin

end Service

end SlotMachine
