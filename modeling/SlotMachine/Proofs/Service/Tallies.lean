import Mathlib.Data.List.Forall2
import SlotMachine.Proofs.Metrics.Series
import SlotMachine.Proofs.Service.Agreement
import SlotMachine.Proofs.Service.Failures
import SlotMachine.Proofs.Service.Recordings
import SlotMachine.Proofs.Service.Replay

/-!
# What the series about spins tell

Five series are about spins: how many have failed, have been drawn and have won, and the volumes of
bets and payouts. After any visits they tell just that of the plays there were, whoever has answered
and whatever of it has failed; of all that is replied only the failed updates of balances count, and
they count as failures alone.

`SpinSeries.plus` says what a list of plays adds to the series. A visit adds its own play
(`Recording.spinSeries_eq`), and so visits one after the other add all of theirs.
-/

namespace SlotMachine

open Dialogue (Transcript Answered)

/-! ### Plays that have come to an end -/

/-- What was drawn and said in a play, and what came of it. -/
structure Passage where
  drawn : Except PlayError Round
  said : Transcript Call.Reply
  result : Except SpinError Settlement

namespace Passage

variable (p : Passage)

/-- The drawn round, as it was kept when it had been handed in to be saved. -/
def round? : Option Round :=
  match p.drawn, p.said with
  | .ok drawn, ⟨.save _, saved⟩ :: _ => some (drawn.kept saved)
  | _, _ => none

/-- The answer to a call is that a balance could not be updated. -/
def isFailedUpdate : (c : Call) × c.Reply → Bool
  | ⟨.updateBalance _ _ _, .error _⟩ => true
  | _ => false

def updateFailed : Bool := p.said.any isFailedUpdate

end Passage

namespace Service

variable {σ : Type} (s : Service) (answer : (c : Call) → StateM σ c.Reply)

def passage (v : Visit) (start : Recorder × σ) : Passage where
  drawn := s.drawn v
  said := (s.exchange v).said answer start.1 start.2
  result := (s.exchange v).result answer start.1 start.2

/-- The plays of visits, one after the other. -/
def passages : List Visit → Recorder × σ → List Passage
  | [], _ => []
  | v :: visits, start =>
    s.passage answer v start :: passages visits (s.afterVisit answer v start)

end Service

/-! ### The series -/

/-- The counters and the volumes of spins; a volume has no series before the first spin. -/
structure SpinSeries where
  failures : Nat
  spins : Nat
  wins : Nat
  betVolume : Option Float
  payoutVolume : Option Float

def Recorder.spinSeries (r : Recorder) : SpinSeries where
  failures := r.count .spinFailures
  spins := r.count .spins
  wins := r.count .wins
  betVolume := r.gauge? .betVolume
  payoutVolume := r.gauge? .payoutVolume

/-- A recorder in which nothing has been recorded. -/
def Recorder.fresh (described : Bool) : Recorder where
  described

/-- A volume to which amounts are added, one after the other. -/
def addUp (volume : Option Float) (amounts : List Float) : Option Float :=
  amounts.foldl (fun volume amount => some (volume.getD 0.0 + amount)) volume

/-- The sum of amounts from left to right, beginning at zero; of no amounts there is none. -/
def sum? (amounts : List Float) : Option Float :=
  if amounts.isEmpty then none else some (amounts.foldl (· + ·) 0.0)

lemma addUp_some (volume : Float) (amounts : List Float) :
    addUp (some volume) amounts = some (amounts.foldl (· + ·) volume) := by
  induction amounts generalizing volume with
  | nil => rfl
  | cons amount amounts ih => exact ih (volume + amount)

lemma addUp_none (amounts : List Float) : addUp none amounts = sum? amounts := by
  cases amounts with
  | nil => rfl
  | cons amount amounts => exact addUp_some (0.0 + amount) amounts

/-- The series when plays have been added to them. -/
def SpinSeries.plus (t : SpinSeries) (plays : List Passage) : SpinSeries where
  failures := t.failures + plays.countP (!·.result.isOk)
  spins := t.spins + plays.countP (·.drawn.isOk)
  wins := t.wins + (plays.filterMap Passage.round?).countP (·.outcome.win)
  betVolume := addUp t.betVolume ((plays.filterMap Passage.round?).map (·.bet))
  payoutVolume := addUp t.payoutVolume ((plays.filterMap Passage.round?).map (·.payout))

lemma SpinSeries.plus_cons (t : SpinSeries) (p : Passage) (plays : List Passage) :
    t.plus (p :: plays) = (t.plus [p]).plus plays := by
  cases hround : p.round? with
  | none => simp [plus, hround, List.countP_cons, addUp, Nat.add_assoc, Nat.add_comm]
  | some round => simp [plus, hround, List.countP_cons, addUp, Nat.add_assoc, Nat.add_comm]

/-! ### What a visit adds -/

namespace Recorder

variable (r : Recorder)

lemma spinSeries_withSession (session : Except Failure (Option SessionStats)) :
    (r.withSession session).spinSeries = r.spinSeries := by
  match session with
  | .ok (some stats) => simp [withSession, spinSeries, trackRtp, gauge?_track]
  | .ok none => rfl
  | .error _ => rfl

lemma spinSeries_withRolling (rolling : Except Failure (Option RollingStats)) :
    (r.withRolling rolling).spinSeries = r.spinSeries := by
  match rolling with
  | .ok (some stats) =>
    simp [withRolling, spinSeries, trackRtp, count_trackChecked, gauge?_trackChecked, gauge?_track]
  | .ok none => rfl
  | .error _ => rfl

lemma spinSeries_withRound (round : Round) :
    (r.withRound round).spinSeries = {
      failures := r.spinSeries.failures
      spins := r.spinSeries.spins + 1
      wins := r.spinSeries.wins + if round.outcome.win then 1 else 0
      betVolume := addUp r.spinSeries.betVolume [round.bet]
      payoutVolume := addUp r.spinSeries.payoutVolume [round.payout] } := by
  simp [withRound, spinSeries, gauge?_track, count_recordSpin, gauge?_recordSpin, addUp]

lemma spinSeries_closed {α : Type} (result : Except SpinError α) :
    (r.closed result).spinSeries = { r.spinSeries with
      failures := r.spinSeries.failures + if result.isOk then 0 else 1 } := by
  cases result with
  | ok _ => rfl
  | error _ => simp [closed, recordFailure, spinSeries, count_increment, Except.isOk, Except.toBool]

end Recorder

section

variable {wagers : Bool} {trace : Trace} {recorder recorder' : Recorder}
  {drawn : Except PlayError Round} {log : Transcript Call.Reply}
  {result : Except SpinError Settlement}

lemma Recording.spinSeries_eq (h : Recording wagers trace recorder drawn log result recorder') :
    recorder'.spinSeries = recorder.spinSeries.plus [⟨drawn, log, result⟩] := by
  cases h with
  | undrawn e =>
    exact recorder.spinSeries_closed (.error (.ofPlayError e) : Except SpinError Settlement)
  | @drawn round o rest _ closing =>
    rw [Recorder.spinSeries_closed, Recorder.measured, Recorder.spinSeries_withRolling,
      Recorder.spinSeries_withSession, Recorder.spinSeries_withRound]
    cases result with
    | ok _ => simp [SpinSeries.plus, Passage.round?, OpeningReplies.log, List.countP_cons,
        Except.isOk, Except.toBool]
    | error _ => simp [SpinSeries.plus, Passage.round?, OpeningReplies.log, List.countP_cons,
        Except.isOk, Except.toBool]

/-- What asks for no update has no failed one. -/
lemma any_isFailedUpdate (h : Exchange.updates log = []) :
    log.any Passage.isFailedUpdate = false := by
  rw [List.any_eq_false]
  rintro ⟨c, reply⟩ hmem
  have hupdate := List.filterMap_eq_nil_iff.1 h _ hmem
  cases c with
  | updateBalance userId bet payout => cases hupdate
  | _ => exact Bool.false_ne_true

lemma OpeningReplies.any_isFailedUpdate_log (o : OpeningReplies) (drawn : Round) :
    (o.log drawn trace).any Passage.isFailedUpdate = !o.updated.isOk := by
  obtain ⟨_, _, _, _, _, updated⟩ := o
  cases updated with
  | ok _ => rfl
  | error _ => rfl

/-- Of the plays that are drawn, some are settled, and those that are not have failed to update the
balance. -/
structure Passage.Sound (p : Passage) : Prop where
  isSome_round? : p.round?.isSome = p.drawn.isOk
  isOk_drawn : p.drawn.isOk = (p.result.isOk || p.updateFailed)
  settled : p.result.isOk = true → p.updateFailed = false

lemma Recording.sound (h : Recording wagers trace recorder drawn log result recorder') :
    Passage.Sound ⟨drawn, log, result⟩ := by
  cases h with
  | undrawn e => exact ⟨rfl, rfl, nofun⟩
  | @drawn round o rest _ closing =>
    have hfailed : Passage.updateFailed ⟨.ok round, o.log round trace ++ rest, result⟩ =
        !o.updated.isOk := by
      rw [Passage.updateFailed, List.any_append, any_isFailedUpdate closing.updates_eq,
        Bool.or_false, o.any_isFailedUpdate_log]
    have hresult : result.isOk = o.updated.isOk := by
      obtain ⟨failure, hupdated, -, rfl⟩ | ⟨balance, progress, hupdated, rfl⟩ := closing.of_updated
      · rw [hupdated]
        rfl
      · rw [hupdated]
        rfl
    refine ⟨rfl, ?_, ?_⟩
    · dsimp only
      rw [hfailed, hresult, Bool.or_not_self]
      rfl
    · intro hok
      rw [hfailed]
      simpa [← hresult] using hok

lemma countP_drawn {plays : List Passage} (h : ∀ p ∈ plays, p.Sound) :
    plays.countP (·.drawn.isOk) =
      plays.countP (·.result.isOk) + plays.countP (·.updateFailed) := by
  induction plays with
  | nil => rfl
  | cons p plays ih =>
    obtain ⟨⟨-, hdrawn, hsettled⟩, hplays⟩ := List.forall_mem_cons.1 h
    rw [List.countP_cons, List.countP_cons, List.countP_cons, ih hplays, hdrawn]
    cases hok : p.result.isOk with
    | true => simp [hsettled hok, Nat.add_right_comm]
    | false => simp [Nat.add_assoc]

/-- A play fails where nothing is drawn, or where the update of the balance fails. -/
lemma countP_failed {plays : List Passage} (h : ∀ p ∈ plays, p.Sound) :
    plays.countP (!·.result.isOk) =
      plays.countP (!·.drawn.isOk) + plays.countP (·.updateFailed) := by
  have hdrawn := countP_drawn h
  have hall := List.length_eq_countP_add_countP (·.drawn.isOk) (l := plays)
  have hall' := List.length_eq_countP_add_countP (·.result.isOk) (l := plays)
  simp only [Bool.not_eq_true, Bool.decide_eq_false] at hall hall'
  omega

/-- The round of a play is what saving leaves of it. -/
lemma Recording.round?_eq {σ : Type} {answer : (c : Call) → StateM σ c.Reply} {state state' : σ}
    (h : Recording wagers trace recorder drawn log result recorder')
    (hanswered : Answered answer state log state') :
    Passage.round? ⟨drawn, log, result⟩ =
      drawn.toOption.map fun round => round.kept (answer (.save round) state).1 := by
  cases h with
  | undrawn e => rfl
  | @drawn round o rest _ _ =>
    obtain ⟨hsaved, -⟩ := OpeningReplies.answered_of_log hanswered
    exact congrArg (fun saved => some (round.kept saved)) hsaved

end

/-! ### Visits one after the other -/

/-- Saving a round does no more to it than to give it an id. -/
def SavesAlike {σ : Type} (answer : (c : Call) → StateM σ c.Reply) : Prop :=
  ∀ round state saved, (answer (.save round) state).1 = .ok saved → ∃ id, saved = round.withId id

namespace Service

variable {σ : Type} (s : Service) (answer : (c : Call) → StateM σ c.Reply)

lemma spinSeries_visit (v : Visit) (start : Recorder × σ) :
    (s.afterVisit answer v start).1.spinSeries =
      start.1.spinSeries.plus [s.passage answer v start] := by
  simp only [afterVisit, passage]
  exact (s.visit_records answer v start.1 start.2).spinSeries_eq

lemma spinSeries_visits (visits : List Visit) (start : Recorder × σ) :
    (s.afterVisits answer visits start).1.spinSeries =
      start.1.spinSeries.plus (s.passages answer visits start) := by
  induction visits generalizing start with
  | nil => rfl
  | cons v visits ih =>
    rw [passages, SpinSeries.plus_cons, ← spinSeries_visit, ← ih]
    simp only [afterVisits, List.foldl_cons]

lemma sound_passages (visits : List Visit) (start : Recorder × σ) :
    ∀ p ∈ s.passages answer visits start, p.Sound := by
  induction visits generalizing start with
  | nil => simp [passages]
  | cons v visits ih =>
    rw [passages, List.forall_mem_cons]
    simp only [passage]
    exact ⟨(s.visit_records answer v start.1 start.2).sound, ih _⟩

lemma round?_passage (v : Visit) (start : Recorder × σ) :
    (s.passage answer v start).round? =
      (s.drawn v).toOption.map fun round => round.kept (answer (.save round) start.2).1 := by
  simp only [passage]
  exact (s.visit_records answer v start.1 start.2).round?_eq
    (Exchange.answered_said answer (s.exchange v) start.1 start.2)

/-- The rounds of plays are those that were drawn. -/
lemma rounds_sameButId (hsaves : SavesAlike answer) (visits : List Visit) (start : Recorder × σ) :
    List.Forall₂ Round.SameButId ((s.passages answer visits start).filterMap Passage.round?)
      (visits.filterMap fun v => (s.drawn v).toOption) := by
  induction visits generalizing start with
  | nil => exact .nil
  | cons v visits ih =>
    rw [passages, List.filterMap_cons, List.filterMap_cons, round?_passage]
    cases s.drawn v with
    | error e => exact ih _
    | ok round => exact .cons (Round.kept_sameButId fun r hr => hsaves round start.2 r hr) (ih _)

/-- What is measured of rounds does not tell those apart that are the same but for their ids. -/
lemma map_eq_of_sameButId {β : Type} {f : Round → β} {rounds rounds' : List Round}
    (hf : ∀ r r', Round.SameButId r r' → f r = f r')
    (h : List.Forall₂ Round.SameButId rounds rounds') : rounds.map f = rounds'.map f := by
  induction h with
  | nil => rfl
  | cons hround _ ih => rw [List.map_cons, List.map_cons, hf _ _ hround, ih]

lemma map_drawn_passages (visits : List Visit) (start : Recorder × σ) :
    (s.passages answer visits start).map (·.drawn) = visits.map s.drawn := by
  induction visits generalizing start with
  | nil => rfl
  | cons v visits ih => rw [passages, List.map_cons, List.map_cons, ih, passage]

/-- Plays of the same draws with as many failed updates add the same to the series. -/
lemma plus_congr {t : SpinSeries} {plays plays' : List Passage} {drawn : List Round}
    (h : ∀ p ∈ plays, p.Sound) (h' : ∀ p ∈ plays', p.Sound)
    (hdrawn : plays.map (·.drawn) = plays'.map (·.drawn))
    (hfailed : plays.countP (·.updateFailed) = plays'.countP (·.updateFailed))
    (hrounds : List.Forall₂ Round.SameButId (plays.filterMap Passage.round?) drawn)
    (hrounds' : List.Forall₂ Round.SameButId (plays'.filterMap Passage.round?) drawn) :
    t.plus plays = t.plus plays' := by
  have hcount : ∀ q : Except PlayError Round → Bool,
      plays.countP (fun p => q p.drawn) = plays'.countP (fun p => q p.drawn) := by
    intro q
    have hmap := congrArg (List.countP q) hdrawn
    rwa [List.countP_map, List.countP_map] at hmap
  have hsame : ∀ {β : Type} {f : Round → β}, (∀ r r', Round.SameButId r r' → f r = f r') →
      (plays.filterMap Passage.round?).map f = (plays'.filterMap Passage.round?).map f :=
    fun hf => (map_eq_of_sameButId hf hrounds).trans (map_eq_of_sameButId hf hrounds').symm
  have hwins := congrArg (List.countP id) (hsame fun _ _ h => congrArg Outcome.win h.outcome)
  have hbets := hsame fun _ _ h => h.bet
  have hpayouts := hsame fun _ _ h => h.payout
  simp only [List.countP_map, Function.id_comp] at hwins
  simp only [SpinSeries.plus, countP_failed h, countP_failed h', hfailed, hcount (!·.isOk),
    hcount (·.isOk), hwins, hbets, hpayouts]

lemma plus_fresh (described : Bool) (plays : List Passage) :
    (Recorder.fresh described).spinSeries.plus plays = {
      failures := plays.countP (!·.result.isOk)
      spins := plays.countP (·.drawn.isOk)
      wins := (plays.filterMap Passage.round?).countP (·.outcome.win)
      betVolume := sum? ((plays.filterMap Passage.round?).map (·.bet))
      payoutVolume := sum? ((plays.filterMap Passage.round?).map (·.payout)) } := by
  simp only [← addUp_none]
  simp [SpinSeries.plus, Recorder.spinSeries, Recorder.fresh, Recorder.count, Recorder.gauge?]

/-- After any visits to a service with a fresh recorder, whatever its collaborators do, the series
tell how many plays have failed, how many were drawn and how many of their rounds won, and what was
bet and paid out in these rounds, added up in their order. The plays that were drawn are those that
have been settled and those that could not update the balance, and no others. What is saved, as long
as saving does no more than to give ids, and all else that may fail or not makes no difference: with
other collaborators, of whose updates as many fail, the series are the same. -/
theorem spinSeries_afterVisits (described : Bool) (visits : List Visit) (state : σ) :
    let start := (Recorder.fresh described, state)
    let plays := s.passages answer visits start
    let rounds := plays.filterMap Passage.round?
    let drawn := visits.filterMap fun v => (s.drawn v).toOption
    (s.afterVisits answer visits start).1.spinSeries = {
      failures := plays.countP (!·.result.isOk)
      spins := plays.countP (·.drawn.isOk)
      wins := rounds.countP (·.outcome.win)
      betVolume := sum? (rounds.map (·.bet))
      payoutVolume := sum? (rounds.map (·.payout)) } ∧
    plays.countP (·.drawn.isOk) =
      plays.countP (·.result.isOk) + plays.countP (·.updateFailed) ∧
    (∀ p ∈ plays, p.Sound) ∧
    (SavesAlike answer → List.Forall₂ Round.SameButId rounds drawn ∧
      ∀ {σ' : Type} (answer' : (c : Call) → StateM σ' c.Reply) (state' : σ') (wagers' : Bool),
        let start' := (Recorder.fresh described, state')
        let plays' := Service.passages ⟨s.engine, wagers'⟩ answer' visits start'
        SavesAlike answer' → plays'.countP (·.updateFailed) = plays.countP (·.updateFailed) →
        (Service.afterVisits ⟨s.engine, wagers'⟩ answer' visits start').1.spinSeries =
          (s.afterVisits answer visits start).1.spinSeries) := by
  intro start plays rounds drawn
  have hsound := s.sound_passages answer visits start
  refine ⟨?_, countP_drawn hsound, hsound, fun hsaves => ⟨?_, ?_⟩⟩
  · rw [spinSeries_visits]
    exact plus_fresh described plays
  · exact s.rounds_sameButId answer hsaves visits start
  · intro σ' answer' state' wagers' start' plays' hsaves' hfailed
    rw [spinSeries_visits, spinSeries_visits]
    have hsound' := sound_passages ⟨s.engine, wagers'⟩ answer' visits start'
    have hdrawn := (map_drawn_passages ⟨s.engine, wagers'⟩ answer' visits start').trans
      (s.map_drawn_passages answer visits start).symm
    exact plus_congr hsound' hsound hdrawn hfailed
      (rounds_sameButId ⟨s.engine, wagers'⟩ answer' hsaves' visits start')
      (s.rounds_sameButId answer hsaves visits start)

/-! ### A play without a name, and one of Anna's whose balance is not updated -/

/-- Whatever is asked fails. -/
def failing (c : Call) : StateM Unit c.Reply := fun s => (.error ⟨["unavailable"]⟩, s)

lemma savesAlike_failing : SavesAlike failing := by
  intro round state saved h
  cases h

lemma savesAlike_answerUnwritable : SavesAlike (House.answerUnwritable .ordinary) :=
  fun _ _ _ h => House.answer_save_eq_ok h

lemma passage_eq (v : Visit) (start : Recorder × σ) :
    s.passage answer v start =
      ⟨s.drawn v, (s.settleDrawn (s.drawn v) v.trace).said answer start.1 start.2,
        (s.settleDrawn (s.drawn v) v.trace).result answer start.1 start.2⟩ := by
  simp only [passage, exchange_eq]

lemma afterVisit_eq (v : Visit) (start : Recorder × σ) :
    s.afterVisit answer v start =
      ((s.settleDrawn (s.drawn v) v.trace).recorded answer start.1 start.2,
        (s.settleDrawn (s.drawn v) v.trace).left answer start.1 start.2) := by
  simp only [afterVisit, exchange_eq]

/-- Two failures and one spin, for those who only cannot update balances and for those who can do
nothing at all. -/
theorem spinSeries_afterVisits_ofAnna :
    let answer := House.answerUnwritable .ordinary
    let visits := [Visit.nameless, Visit.ofAnna]
    SavesAlike answer ∧ SavesAlike failing ∧
    (primeless.afterVisits answer visits (.fresh false, .fresh 1000.0)).1.spinSeries =
      ⟨2, 1, 1, some 10.0, some 20.0⟩ ∧
    (Service.afterVisits ⟨.primeless, false⟩ failing visits (.fresh false, ())).1.spinSeries =
      ⟨2, 1, 1, some 10.0, some 20.0⟩ := by
  intro answer visits
  obtain ⟨hseries, -, -, hsame⟩ :=
    primeless.spinSeries_afterVisits answer false visits (.fresh 1000.0)
  have hstart : primeless.afterVisit answer .nameless (.fresh false, .fresh 1000.0) =
      ((Recorder.fresh false).recordFailure, .fresh 1000.0) := by
    rw [afterVisit_eq, drawn_nameless]
    rfl
  obtain ⟨p, p', hplays, hfailed, hfailed', hdrawn, hrounds⟩ : ∃ p p' : Passage,
      primeless.passages answer visits (.fresh false, .fresh 1000.0) = [p, p'] ∧
      (p.result.isOk = false ∧ p'.result.isOk = false) ∧
      (p.updateFailed = false ∧ p'.updateFailed = true) ∧
      (p.drawn.isOk = false ∧ p'.drawn.isOk = true) ∧
      p.round? = none ∧ p'.round? = some (Round.ofAnna.withId "0") := by
    simp only [visits, passages, hstart, passage_eq, drawn_ofAnna, drawn_nameless]
    exact ⟨_, _, rfl, ⟨rfl, rfl⟩, ⟨rfl, rfl⟩, ⟨rfl, rfl⟩, rfl, rfl⟩
  have htold : (primeless.afterVisits answer visits
      (.fresh false, .fresh 1000.0)).1.spinSeries = ⟨2, 1, 1, some 10.0, some 20.0⟩ := by
    have hfailures : [p, p'].countP (!·.result.isOk) = 2 := by simp [hfailed]
    have hspins : [p, p'].countP (·.drawn.isOk) = 1 := by simp [hdrawn]
    have hkept : [p, p'].filterMap Passage.round? = [Round.ofAnna.withId "0"] := by simp [hrounds]
    rw [hseries, hplays, hfailures, hspins, hkept]
    rfl
  have hunwagered : Service.drawn ⟨.primeless, false⟩ .ofAnna = .ok .ofAnna := drawn_ofAnna
  have hnameless : Service.drawn ⟨.primeless, false⟩ .nameless = .error (.refused .missingUser) :=
    drawn_nameless
  have hfailures : (Service.passages ⟨.primeless, false⟩ failing visits
      (.fresh false, ())).countP (·.updateFailed) = 1 := by
    simp only [visits, passages, passage_eq, afterVisit_eq, hunwagered, hnameless]
    rfl
  refine ⟨savesAlike_answerUnwritable, savesAlike_failing, htold, ?_⟩
  rw [← htold]
  refine (hsame savesAlike_answerUnwritable).2 failing () false savesAlike_failing
    (hfailures.trans ?_)
  rw [hplays]
  simp [hfailed']

end Service

end SlotMachine
