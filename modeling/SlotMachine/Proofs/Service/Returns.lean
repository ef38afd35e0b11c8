import SlotMachine.Proofs.Service.Tallies
import SlotMachine.Proofs.Store.Retention

/-!
# The returns that are shown

After a play that was drawn the recorder shows the return of its user within the last hour, and that
of all users within the last day. Those who keep the rounds drop what has expired and tell no more
than totals; what is shown are nevertheless the returns of all rounds that were ever drawn, as far
as they lie within these windows.

The invariant is `Shows`, of the rounds of all plays so far. A single answer keeps it
(`KeepsRounds.shows_answer`), and so does all that is said, up to any call
(`KeepsRounds.shows_answered`). At the calls for totals it gives the reply.
-/

namespace SlotMachine

open Dialogue (Transcript Answered)
open Exchange (savedRound?)

/-! ### Those who keep rounds -/

/-- Collaborators who keep rounds as a store does, on a clock that does not go back and shows no
time before 1970. Whatever else they do, and whether it fails, does not matter. -/
structure KeepsRounds {σ : Type} (answer : (c : Call) → StateM σ c.Reply) (store : σ → Store)
    (clock : σ → Instant) : Prop where
  clock_le : ∀ c state, clock state ≤ clock (answer c state).2
  epoch_le : ∀ state, ⟨0, 0⟩ ≤ clock state
  save : ∀ round state, ∃ id,
    (answer (.save round) state).1 =
      House.told (((store state).save (clock state) id round).map Prod.fst) ∧
    (store (answer (.save round) state).2).rounds =
      ((store state).afterSave ⟨clock state, id, round⟩).rounds
  sessionStats_eq : ∀ userId hours state, (answer (.sessionStats userId hours) state).1 =
    House.told ((store state).sessionStats (clock state) userId hours)
  rollingStats_eq : ∀ hours state, (answer (.rollingStats hours) state).1 =
    House.told ((store state).rollingStats (clock state) hours)
  rounds_eq : ∀ c state, (∀ round, c ≠ .save round) →
    (store (answer c state).2).rounds = (store state).rounds

namespace House

variable {around : Surroundings}

lemma calls_answer (c : Call) (h : House) : (answer around c h).2.calls = h.calls + 1 := by
  cases c with
  | save round =>
    simp only [answer]
    split <;> rfl
  | _ => rfl

lemma rounds_answer {c : Call} (hc : ∀ round, c ≠ .save round) (h : House) :
    (answer around c h).2.store.rounds = h.store.rounds := by
  cases c with
  | save round => exact absurd rfl (hc round)
  | _ => rfl

lemma answer_save (round : Round) (h : House) :
    (answer around (.save round) h).1 =
      told ((h.store.save (around.now h.calls) (around.id h.calls) round).map Prod.fst) ∧
    (answer around (.save round) h).2.store =
      h.store.afterSave ⟨around.now h.calls, around.id h.calls, round⟩ := by
  simp only [answer, Store.afterSave]
  cases h.store.save (around.now h.calls) (around.id h.calls) round with
  | ok saved => exact ⟨rfl, rfl⟩
  | error e => exact ⟨rfl, rfl⟩

/-- A house keeps rounds, if its clock is a good one. -/
lemma keepsRounds (hclock : Monotone around.now) (hepoch : ∀ n, ⟨0, 0⟩ ≤ around.now n) :
    KeepsRounds (answer around) House.store fun h => around.now h.calls where
  clock_le c h := by
    rw [calls_answer]
    exact hclock (Nat.le_succ h.calls)
  epoch_le h := hepoch h.calls
  save round h := ⟨_, (answer_save round h).1, congrArg Store.rounds (answer_save round h).2⟩
  sessionStats_eq _ _ _ := rfl
  rollingStats_eq _ _ := rfl
  rounds_eq _ h hc := rounds_answer hc h

end House

/-! ### What they show -/

namespace Store

variable {s : Store} {rounds : List Round} {now start : Instant} {hours : Nat}

lemma Shows.congr {s' : Store} (h : s.Shows rounds now) (hrounds : s'.rounds = s.rounds) :
    s'.Shows rounds now := by
  intro later hours start hle hh hstart
  rw [← h later hours start hle hh hstart, roundsSince, hrounds, roundsSince]

lemma Shows.sessionStats_eq (h : s.Shows rounds now) (hh : hours ≤ rollingHours)
    (hstart : windowStart now hours = .ok start) (userId : String) :
    s.sessionStats now userId hours = .ok (SessionStats.ofRounds?
      (rounds.filter fun round => round.userId = userId ∧ start ≤ round.time)) := by
  rw [sessionStats, hstart]
  refine congrArg Except.ok ?_
  rw [h now hours start le_rfl hh hstart, SessionStats.ofPlays?_map, List.filter_filter]
  simp only [Bool.decide_and, beq_eq_decide]

lemma Shows.rollingStats_eq (h : s.Shows rounds now) (hh : hours ≤ rollingHours)
    (hstart : windowStart now hours = .ok start) :
    s.rollingStats now hours =
      .ok (RollingStats.ofRounds? (rounds.filter (start ≤ ·.time))) := by
  rw [rollingStats, hstart]
  refine congrArg Except.ok ?_
  rw [h now hours start le_rfl hh hstart, RollingStats.ofPlays?_map]

end Store

namespace KeepsRounds

variable {σ : Type} {answer : (c : Call) → StateM σ c.Reply} {store : σ → Store}
  {clock : σ → Instant} {rounds : List Round} {state state' : σ}
  {log : Transcript Call.Reply}

lemma windowStart_clock (h : KeepsRounds answer store clock) (state : σ) {hours : Nat}
    (hh : hours ≤ rollingHours) :
    windowStart (clock state) hours = .ok ((clock state).hoursAgo hours) :=
  Store.windowStart_eq_ok.2 (Instant.hoursBefore?_eq_some (h.epoch_le state) hh)

/-- Saving does not fail. -/
lemma save_eq (h : KeepsRounds answer store clock) (round : Round) (state : σ) :
    ∃ c : Store.SaveCall, c.now = clock state ∧ c.saved? = some (round.withId c.id) ∧
      (answer (.save round) state).1 = .ok (round.withId c.id) ∧
      (store (answer (.save round) state).2).rounds = ((store state).afterSave c).rounds := by
  obtain ⟨id, hreply, hrounds⟩ := h.save round state
  have hstart := h.windowStart_clock state (le_refl rollingHours)
  refine ⟨⟨clock state, id, round⟩, rfl, ?_, ?_, hrounds⟩
  · simp only [Store.SaveCall.saved?, hstart]
  · rw [hreply, Store.save, hstart]
    rfl

lemma savesAlike (h : KeepsRounds answer store clock) : SavesAlike answer := by
  intro round state saved hsaved
  obtain ⟨c, -, -, hreply, -⟩ := h.save_eq round state
  exact ⟨c.id, Except.ok.inj (hsaved.symm.trans hreply)⟩

lemma shows_save (h : KeepsRounds answer store clock) (round : Round)
    (hshows : (store state).Shows rounds (clock state)) :
    ∃ id, (answer (.save round) state).1 = .ok (round.withId id) ∧
      (store (answer (.save round) state).2).Shows (rounds ++ [round.withId id])
        (clock (answer (.save round) state).2) := by
  obtain ⟨c, hnow, hsaved, hreply, hrounds⟩ := h.save_eq round state
  rw [← hnow] at hshows
  have hafter := hshows.afterSave
  rw [hsaved, hnow, Option.toList_some] at hafter
  exact ⟨c.id, hreply, (hafter.congr hrounds).mono (h.clock_le _ state)⟩

lemma shows_answer (h : KeepsRounds answer store clock) (c : Call)
    (hshows : (store state).Shows rounds (clock state)) :
    (store (answer c state).2).Shows
      (rounds ++ (savedRound? ⟨c, (answer c state).1⟩).toList) (clock (answer c state).2) := by
  cases c with
  | save round =>
    obtain ⟨id, hreply, hafter⟩ := h.shows_save round hshows
    rw [hreply]
    exact hafter
  | _ =>
    simp only [savedRound?, Option.toList_none, List.append_nil]
    exact (hshows.congr (h.rounds_eq _ state fun _ hc => by cases hc)).mono (h.clock_le _ state)

lemma shows_answered (h : KeepsRounds answer store clock)
    (hshows : (store state).Shows rounds (clock state)) (hlog : Answered answer state log state') :
    (store state').Shows (rounds ++ log.filterMap savedRound?) (clock state') := by
  rw [List.filterMap_eq_flatMap_toList]
  induction hlog generalizing rounds with
  | nil state =>
    rw [List.flatMap_nil, List.append_nil]
    exact hshows
  | cons c state _ ih =>
    rw [List.flatMap_cons, ← List.append_assoc]
    exact ih (h.shows_answer c hshows)

/-- The reply to a call for the totals of a session. -/
lemma session_reply (h : KeepsRounds answer store clock)
    (hshows : (store state).Shows rounds (clock state)) (userId : String) :
    (answer (.sessionStats userId 1) state).1 = .ok (SessionStats.ofRounds?
      (rounds.filter fun r => r.userId = userId ∧ (clock state).hoursAgo 1 ≤ r.time)) := by
  have hh : 1 ≤ rollingHours := by decide
  rw [h.sessionStats_eq, hshows.sessionStats_eq hh (h.windowStart_clock state hh)]
  rfl

/-- The reply to a call for the totals of a day. -/
lemma rolling_reply (h : KeepsRounds answer store clock)
    (hshows : (store state).Shows rounds (clock state)) :
    (answer (.rollingStats 24) state).1 =
      .ok (RollingStats.ofRounds? (rounds.filter ((clock state).hoursAgo 24 ≤ ·.time))) := by
  have hh : 24 ≤ rollingHours := by decide
  rw [h.rollingStats_eq, hshows.rollingStats_eq hh (h.windowStart_clock state hh)]
  rfl

end KeepsRounds

/-! ### What is shown -/

/-- The return of rounds to their players in percent. Bets and payouts are added up in the order of
the rounds, beginning at zero. -/
def Round.rtpOf (rounds : List Round) : Float :=
  rtpPercent ((rounds.map (·.bet)).foldl (· + ·) 0.0) ((rounds.map (·.payout)).foldl (· + ·) 0.0)

lemma Round.rtpOf_congr {rounds rounds' : List Round}
    (h : List.Forall₂ SameButId rounds rounds') : rtpOf rounds = rtpOf rounds' := by
  rw [rtpOf, Service.map_eq_of_sameButId (fun _ _ hround => hround.bet) h,
    Service.map_eq_of_sameButId (fun _ _ hround => hround.payout) h, rtpOf]

/-- A window sees the same rounds, whether they have got ids or not. -/
lemma Round.SameButId.filter {rounds rounds' : List Round}
    (h : List.Forall₂ SameButId rounds rounds') (p : String → Instant → Prop)
    [∀ userId time, Decidable (p userId time)] :
    List.Forall₂ SameButId (rounds.filter fun r => p r.userId r.time)
      (rounds'.filter fun r => p r.userId r.time) := by
  refine List.rel_filter (fun r r' hround => ?_) h
  simp only [hround.userId, hround.time]

lemma SessionStats.ofRounds?_eq_some {rounds rounds' : List Round}
    (h : List.Forall₂ Round.SameButId rounds rounds') (hne : rounds' ≠ []) :
    ∃ stats, ofRounds? rounds = some stats ∧ stats.rtp = Round.rtpOf rounds' := by
  rw [← Round.rtpOf_congr h]
  cases h with
  | nil => exact absurd rfl hne
  | cons hround hrounds =>
    refine ⟨_, rfl, ?_⟩
    rw [rtp, Round.rtpOf, List.foldl_map, List.foldl_map]

lemma RollingStats.ofRounds?_eq_some {rounds rounds' : List Round}
    (h : List.Forall₂ Round.SameButId rounds rounds') (hne : rounds' ≠ []) :
    ∃ stats, ofRounds? rounds = some stats ∧ stats.rtp = Round.rtpOf rounds' := by
  rw [← Round.rtpOf_congr h]
  cases h with
  | nil => exact absurd rfl hne
  | cons hround hrounds =>
    refine ⟨_, rfl, ?_⟩
    rw [rtp, Round.rtpOf, List.foldl_map, List.foldl_map]

/-- What a recorder shows of the last round and of returns. -/
structure Display where
  betVolume : Option Float
  payoutVolume : Option Float
  winRate : Option Float
  session : Option Float
  day : Option Float
  rolling : Option Float
  anomalies : Direction → Nat

namespace Recorder

variable (r : Recorder)

def display : Display where
  betVolume := r.gauge? (.business "game.bet_volume")
  payoutVolume := r.gauge? (.business "game.payout_volume")
  winRate := r.gauge? (.business "game.win_rate")
  session := r.gauge? (.business "game.rtp.session")
  day := r.gauge? (.business "game.rtp.24h")
  rolling := r.gauge? (.business "game.rtp.rolling")
  anomalies direction := r.count (.anomalies "game.rtp.rolling" direction)

lemma display_withRound (round : Round) : (r.withRound round).display = { r.display with
    betVolume := some round.bet
    payoutVolume := some round.payout
    winRate := some (if round.outcome.win then 100.0 else 0.0) } := by
  simp [withRound, display, gauge?_track, count_recordSpin, gauge?_recordSpin,
    BusinessMetric.betVolume, BusinessMetric.payoutVolume, BusinessMetric.winRate]

lemma display_withSession (stats : SessionStats) :
    (r.withSession (.ok (some stats))).display =
      { r.display with session := some stats.rtp } := by
  simp [withSession, display, trackRtp, rtpName, gauge?_track, BusinessMetric.rtp,
    SessionStats.rtp]

lemma display_withRolling (stats : RollingStats) :
    (r.withRolling (.ok (some stats))).display = { r.display with
      day := some stats.rtp
      rolling := some stats.rtp
      anomalies := fun direction => r.display.anomalies direction +
        if Anomaly.isBeyond stats.rtp direction then 1 else 0 } := by
  have hcount : ∀ direction, ((r.withRolling (.ok (some stats))).display.anomalies direction) =
      r.display.anomalies direction + if Anomaly.isBeyond stats.rtp direction then 1 else 0 :=
    fun direction => count_trackChecked_rtpRolling _ stats.rtp direction
  rw [← funext hcount]
  simp [withRolling, display, trackRtp, rtpName, gauge?_trackChecked, gauge?_track,
    BusinessMetric.rtp, BusinessMetric.rtpRolling, RollingStats.rtp]

lemma display_recordFailure : r.recordFailure.display = r.display := by
  simp [recordFailure, display, count_increment]

lemma display_closed {α : Type} (result : Except SpinError α) :
    (r.closed result).display = r.display := by
  cases result with
  | ok _ => rfl
  | error _ => exact r.display_recordFailure

end Recorder

lemma Recording.display_undrawn {wagers : Bool} {trace : Trace} {recorder recorder' : Recorder}
    {e : PlayError} {log : Transcript Call.Reply} {result : Except SpinError Settlement}
    (h : Recording wagers trace recorder (.error e) log result recorder') :
    recorder'.display = recorder.display := by
  cases h with
  | undrawn _ => exact recorder.display_recordFailure

/-! ### The calls of a play -/

/-- No round is saved after the update of a balance. -/
lemma ClosingTalk.savedRounds_eq {wagers : Bool} {round : Round} {updated : Except Failure Float}
    {log : Transcript Call.Reply} {result : Except SpinError Settlement}
    (h : ClosingTalk wagers round updated log result) : log.filterMap savedRound? = [] :=
  h.filterMap_eq_nil (fun _ _ _ _ => rfl) (fun _ _ _ _ => rfl)

section

variable {σ : Type} (answer : (c : Call) → StateM σ c.Reply) (drawn : Round) (trace : Trace)
  (state : σ)

/-- The state in which the totals of the session are asked for: the drawn round has been saved, and
its event has been published. -/
def sessionState : σ :=
  let (saved, state) := answer (.save drawn) state
  (answer (.publish (.ofRound (drawn.kept saved) trace)) state).2

/-- The state in which the totals of the day are asked for, which is right after those of the
session. -/
def dayState : σ :=
  let userId := (drawn.kept (answer (.save drawn) state).1).userId
  (answer (.sessionStats userId sessionHours) (sessionState answer drawn trace state)).2

variable {answer drawn trace state} {o : OpeningReplies} {rest : Transcript Call.Reply} {state' : σ}

lemma OpeningReplies.totals_of_log
    (h : Answered answer state (o.log drawn trace ++ rest) state') :
    o.session = (answer (.sessionStats (drawn.kept o.saved).userId 1)
      (sessionState answer drawn trace state)).1 ∧
    o.rolling = (answer (.rollingStats 24) (dayState answer drawn trace state)).1 := by
  obtain ⟨hsaved, h⟩ := Dialogue.answered_cons.1 h
  obtain ⟨-, h⟩ := Dialogue.answered_cons.1 h
  obtain ⟨hsession, h⟩ := Dialogue.answered_cons.1 h
  obtain ⟨hrolling, -⟩ := Dialogue.answered_cons.1 h
  rw [hsaved] at hsession hrolling ⊢
  exact ⟨hsession, hrolling⟩

end

namespace KeepsRounds

variable {σ : Type} {answer : (c : Call) → StateM σ c.Reply} {store : σ → Store}
  {clock : σ → Instant} {rounds : List Round}

/-- The round of a play is the one that is saved in it. -/
lemma savedRounds_said (h : KeepsRounds answer store clock) {wagers : Bool} {trace : Trace}
    {recorder recorder' : Recorder} {drawn : Except PlayError Round}
    {log : Transcript Call.Reply} {result : Except SpinError Settlement} {state state' : σ}
    (hrecording : Recording wagers trace recorder drawn log result recorder')
    (hlog : Answered answer state log state') :
    log.filterMap savedRound? = (Passage.round? ⟨drawn, log, result⟩).toList := by
  cases hrecording with
  | undrawn e => rfl
  | @drawn round o rest _ closing =>
    obtain ⟨c, -, -, hreply, -⟩ := h.save_eq round state
    have hsaved : o.saved = .ok (round.withId c.id) :=
      (OpeningReplies.answered_of_log hlog).1.trans hreply
    rw [List.filterMap_append, o.savedRounds_log, closing.savedRounds_eq, hsaved]
    simp [Passage.round?, OpeningReplies.log, hsaved, Round.kept, Except.toOption]

lemma shows_afterVisit (h : KeepsRounds answer store clock) (s : Service) (v : Visit)
    (start : Recorder × σ) (hshows : (store start.2).Shows rounds (clock start.2)) :
    (store (s.afterVisit answer v start).2).Shows
      (rounds ++ (s.passage answer v start).round?.toList)
      (clock (s.afterVisit answer v start).2) := by
  have hlog := Exchange.answered_said answer (s.exchange v) start.1 start.2
  simp only [Service.afterVisit, Service.passage]
  rw [← h.savedRounds_said (s.visit_records answer v start.1 start.2) hlog]
  exact h.shows_answered hshows hlog

/-- After any visits the store shows the rounds of all their plays. -/
lemma shows_afterVisits (h : KeepsRounds answer store clock) (s : Service) (visits : List Visit)
    (start : Recorder × σ) (hshows : (store start.2).Shows rounds (clock start.2)) :
    (store (s.afterVisits answer visits start).2).Shows
      (rounds ++ (s.passages answer visits start).filterMap Passage.round?)
      (clock (s.afterVisits answer visits start).2) := by
  rw [List.filterMap_eq_flatMap_toList]
  induction visits generalizing start rounds with
  | nil =>
    rw [Service.passages, List.flatMap_nil, List.append_nil]
    exact hshows
  | cons v visits ih =>
    have hnext := h.shows_afterVisit s v start hshows
    rw [Service.passages, List.flatMap_cons, ← List.append_assoc]
    simpa only [Service.afterVisits, List.foldl_cons] using ih (s.afterVisit answer v start) hnext

/-! ### A play that is drawn -/

lemma shows_sessionState (h : KeepsRounds answer store clock) (drawn : Round) (trace : Trace)
    {state : σ} (hshows : (store state).Shows rounds (clock state)) :
    ∃ id, (answer (.save drawn) state).1 = .ok (drawn.withId id) ∧
      (store (sessionState answer drawn trace state)).Shows (rounds ++ [drawn.withId id])
        (clock (sessionState answer drawn trace state)) ∧
      (store (dayState answer drawn trace state)).Shows (rounds ++ [drawn.withId id])
        (clock (dayState answer drawn trace state)) := by
  obtain ⟨id, hreply, hsaved⟩ := h.shows_save drawn hshows
  have hpublished := h.shows_answer
    (.publish (.ofRound (drawn.kept (answer (.save drawn) state).1) trace)) hsaved
  have hasked := h.shows_answer
    (.sessionStats (drawn.kept (answer (.save drawn) state).1).userId sessionHours) hpublished
  simp only [savedRound?, Option.toList_none, List.append_nil] at hpublished hasked
  exact ⟨id, hreply, hpublished, hasked⟩

lemma display_eq (h : KeepsRounds answer store clock) {wagers : Bool} {trace : Trace}
    {recorder recorder' : Recorder} {drawn : Round} {log : Transcript Call.Reply}
    {result : Except SpinError Settlement} {state state' : σ}
    (hrecording : Recording wagers trace recorder (.ok drawn) log result recorder')
    (hlog : Answered answer state log state') (hshows : (store state).Shows rounds (clock state))
    {before : List Round} (hbefore : List.Forall₂ Round.SameButId rounds before)
    (hhour : (clock (dayState answer drawn trace state)).hoursAgo 1 ≤ drawn.time) :
    let hourAgo := (clock (sessionState answer drawn trace state)).hoursAgo 1
    let dayAgo := (clock (dayState answer drawn trace state)).hoursAgo 24
    let ofSession := (before ++ [drawn]).filter fun r => r.userId = drawn.userId ∧ hourAgo ≤ r.time
    let ofDay := (before ++ [drawn]).filter fun r => dayAgo ≤ r.time
    (ofSession.getLast? = some drawn ∧ ofDay.getLast? = some drawn) ∧
    recorder'.display = {
      betVolume := some drawn.bet
      payoutVolume := some drawn.payout
      winRate := some (if drawn.outcome.win then 100.0 else 0.0)
      session := some (Round.rtpOf ofSession)
      day := some (Round.rtpOf ofDay)
      rolling := some (Round.rtpOf ofDay)
      anomalies := fun direction => recorder.display.anomalies direction +
        if Anomaly.isBeyond (Round.rtpOf ofDay) direction then 1 else 0 } := by
  intro hourAgo dayAgo ofSession ofDay
  obtain ⟨id, hreply, hsession, hday⟩ := h.shows_sessionState drawn trace hshows
  have hrounds : List.Forall₂ Round.SameButId (rounds ++ [drawn.withId id]) (before ++ [drawn]) :=
    List.rel_append hbefore (.cons ⟨rfl, rfl, rfl, rfl, rfl⟩ .nil)
  have hdayAgo : dayAgo ≤ drawn.time := (Instant.hoursAgo_mono le_rfl (by decide)).trans hhour
  have hhourAgo : hourAgo ≤ drawn.time :=
    (Instant.hoursAgo_mono (h.clock_le _ _) le_rfl).trans hhour
  have hlast : ofSession.getLast? = some drawn ∧ ofDay.getLast? = some drawn := by
    simp [ofSession, ofDay, List.filter_append, hdayAgo, hhourAgo]
  refine ⟨hlast, ?_⟩
  cases hrecording with
  | @drawn _ o rest _ closing =>
    have hsaved : o.saved = .ok (drawn.withId id) :=
      (OpeningReplies.answered_of_log hlog).1.trans hreply
    obtain ⟨hasked, hasked'⟩ := OpeningReplies.totals_of_log hlog
    rw [hsaved, h.session_reply hsession] at hasked
    rw [h.rolling_reply hday] at hasked'
    obtain ⟨session, hstats, hrtp⟩ := SessionStats.ofRounds?_eq_some
      (Round.SameButId.filter hrounds fun userId time => userId = drawn.userId ∧ hourAgo ≤ time)
      (List.ne_nil_of_mem (List.mem_of_getLast? hlast.1))
    obtain ⟨day, hstats', hrtp'⟩ := RollingStats.ofRounds?_eq_some
      (Round.SameButId.filter hrounds fun _ time => dayAgo ≤ time)
      (List.ne_nil_of_mem (List.mem_of_getLast? hlast.2))
    have hsession? : o.session = .ok (some session) := hasked.trans (congrArg Except.ok hstats)
    have hrolling? : o.rolling = .ok (some day) := hasked'.trans (congrArg Except.ok hstats')
    rw [Recorder.display_closed, Recorder.measured, hsession?, hrolling?,
      Recorder.display_withRolling, Recorder.display_withSession, Recorder.display_withRound, hrtp,
      hrtp', hsaved]
    rfl

end KeepsRounds

namespace Service

/-- After any visits to a service whose rounds are kept from the first on, what a next visit shows
is a matter of what is drawn. If nothing is, all that was shown stays. Else the bet, the payout and
the win are those of the new round, and if no more than an hour passes meanwhile, the returns are
those of all rounds that have ever been drawn: of the same user, since an hour before the totals of
the session are asked for, and of all users, since a day before those of the day are. The new round
is the last one of both. The return of the day is shown twice, and counts as an anomaly in the one
direction in which it is beyond a threshold, if there is one. -/
theorem display_afterVisit (s : Service) {σ : Type} {answer : (c : Call) → StateM σ c.Reply}
    {store : σ → Store} {clock : σ → Instant} (h : KeepsRounds answer store clock)
    (recorder : Recorder) (state : σ) (hfresh : (store state).rounds = []) (visits : List Visit)
    (v : Visit) :
    let start := s.afterVisits answer visits (recorder, state)
    let next := s.afterVisit answer v start
    (∀ e, s.drawn v = .error e → next.1.display = start.1.display) ∧
    ∀ drawn, s.drawn v = .ok drawn →
      (clock (dayState answer drawn v.trace start.2)).hoursAgo 1 ≤ v.now →
      let rounds := (visits ++ [v]).filterMap fun v => (s.drawn v).toOption
      let hourAgo := (clock (sessionState answer drawn v.trace start.2)).hoursAgo 1
      let dayAgo := (clock (dayState answer drawn v.trace start.2)).hoursAgo 24
      let ofSession := rounds.filter fun r => r.userId = drawn.userId ∧ hourAgo ≤ r.time
      let ofDay := rounds.filter fun r => dayAgo ≤ r.time
      (ofSession.getLast? = some drawn ∧ ofDay.getLast? = some drawn) ∧
      next.1.display = {
        betVolume := some drawn.bet
        payoutVolume := some drawn.payout
        winRate := some (if drawn.outcome.win then 100.0 else 0.0)
        session := some (Round.rtpOf ofSession)
        day := some (Round.rtpOf ofDay)
        rolling := some (Round.rtpOf ofDay)
        anomalies := fun direction => start.1.display.anomalies direction +
          if Anomaly.isBeyond (Round.rtpOf ofDay) direction then 1 else 0 } := by
  intro start next
  have hrecording := s.visit_records answer v start.1 start.2
  have hlog := Exchange.answered_said answer (s.exchange v) start.1 start.2
  have hshows : (store start.2).Shows
      ((s.passages answer visits (recorder, state)).filterMap Passage.round?) (clock start.2) := by
    have hempty : (store state).Shows [] (clock state) := by
      intro later hours since _ _ _
      rw [Store.roundsSince, hfresh, List.filter_nil, List.filter_nil]
    exact h.shows_afterVisits s visits (recorder, state) hempty
  have hbefore := s.rounds_sameButId answer h.savesAlike visits (recorder, state)
  have hnext : next.1 = (s.exchange v).recorded answer start.1 start.2 := by
    simp only [next, afterVisit]
  rw [hnext]
  clear_value start
  constructor
  · intro e he
    rw [he] at hrecording
    exact hrecording.display_undrawn
  · intro drawn hdrawn hhour rounds
    rw [hdrawn] at hrecording
    have hrounds : rounds = visits.filterMap (fun v => (s.drawn v).toOption) ++ [drawn] := by
      simp [rounds, hdrawn, Except.toOption]
    rw [hrounds]
    exact h.display_eq hrecording hlog hshows hbefore
      (hhour.trans_eq (drawn_time hdrawn).symm)

/-- Anna wins once more while her first round is still in sight, which is an anomaly. -/
theorem display_afterVisit_ofAnna :
    let answer := House.answer .ordinary
    let clock (h : House) := Surroundings.ordinary.now h.calls
    let start := primeless.afterVisits answer [.ofAnna] (.fresh false, .fresh 1000.0)
    let next := primeless.afterVisit answer .ofAnna start
    KeepsRounds answer House.store clock ∧ (House.fresh 1000.0).store.rounds = [] ∧
    primeless.drawn .ofAnna = .ok .ofAnna ∧
    (clock (dayState answer .ofAnna [] start.2)).hoursAgo 1 ≤ Visit.ofAnna.now ∧
    next.1.display = {
      betVolume := some 10.0
      payoutVolume := some 20.0
      winRate := some 100.0
      session := some 200.0
      day := some 200.0
      rolling := some 200.0
      anomalies := fun direction =>
        start.1.display.anomalies direction + if direction = .high then 1 else 0 } := by
  intro answer clock start next
  have hkeeps : KeepsRounds answer House.store clock :=
    House.keepsRounds monotone_const fun _ => le_rfl
  have hhour : ∀ h : House, (clock h).hoursAgo 1 ≤ ⟨0, 0⟩ := by
    intro h
    have hstill : Instant.hoursAgo ⟨0, 0⟩ 1 ≤ ⟨0, 0⟩ := by decide
    exact hstill
  have hday : ∀ h : House, (clock h).hoursAgo 24 ≤ ⟨0, 0⟩ := fun h =>
    (Instant.hoursAgo_mono le_rfl (by decide)).trans (hhour h)
  obtain ⟨-, hdisplay⟩ := primeless.display_afterVisit hkeeps (.fresh false) (.fresh 1000.0) rfl
    [.ofAnna] .ofAnna
  obtain ⟨-, hdisplay⟩ := hdisplay .ofAnna drawn_ofAnna (hhour _)
  have hdrawn : ([Visit.ofAnna] ++ [Visit.ofAnna]).filterMap
      (fun v => (primeless.drawn v).toOption) = [.ofAnna, .ofAnna] := by
    simp [drawn_ofAnna, Except.toOption]
  have hsession : ∀ h : House, [Round.ofAnna, .ofAnna].filter
      (fun r => r.userId = Round.ofAnna.userId ∧ (clock h).hoursAgo 1 ≤ r.time) =
        [.ofAnna, .ofAnna] :=
    fun h => List.filter_eq_self.2 (by simp [Round.ofAnna, hhour])
  have hall : ∀ h : House, [Round.ofAnna, .ofAnna].filter
      (fun r => (clock h).hoursAgo 24 ≤ r.time) = [.ofAnna, .ofAnna] :=
    fun h => List.filter_eq_self.2 (by simp [Round.ofAnna, hday])
  have hbeyond : ∀ direction,
      Anomaly.isBeyond (Round.rtpOf [.ofAnna, .ofAnna]) direction = decide (direction = .high) := by
    rintro (_ | _) <;> rfl
  rw [hdrawn, hsession, hall] at hdisplay
  refine ⟨hkeeps, rfl, drawn_ofAnna, hhour _, hdisplay.trans ?_⟩
  simp only [hbeyond, decide_eq_true_eq]
  rfl

end Service

end SlotMachine
