import Mathlib.Data.Finset.Card
import Mathlib.Data.Finset.Dedup
import SlotMachine.Proofs.Instant.Order
import SlotMachine.Store

/-!
# What pruning leaves to be seen

A store drops expired rounds, but only from its front, and it does not keep a round that has expired
before it is saved. None of this shows in the statistics: over any window of a day or less they are
those of the whole history of saved rounds.

The invariant is `Shows`: from the time of the last save on, every such window sees the same rounds
of the store as of the history. A save keeps it (`Shows.afterSave`), because what the save drops
lies before the start of every window that can still be asked for.
-/

namespace SlotMachine

/-! ### Totals of rounds -/

/-- The totals of rounds in their order, added up from zero; of no rounds there are none. -/
def SessionStats.ofRounds? : List Round → Option SessionStats
  | [] => none
  | rounds => some {
    totalBets := rounds.foldl (fun total round => total + round.bet) 0.0
    totalPayouts := rounds.foldl (fun total round => total + round.payout) 0.0
    count := rounds.length }

/-- The totals of rounds with the number of the users who played them. -/
def RollingStats.ofRounds? : List Round → Option RollingStats
  | [] => none
  | rounds => some {
    totalBets := rounds.foldl (fun total round => total + round.bet) 0.0
    totalPayouts := rounds.foldl (fun total round => total + round.payout) 0.0
    count := rounds.length
    uniquePlayers := (rounds.map (·.userId)).toFinset.card }

namespace Play

lemma totalBets_map_ofRound (rounds : List Round) :
    totalBets (rounds.map ofRound) = rounds.foldl (fun total round => total + round.bet) 0.0 := by
  simp only [totalBets, List.foldl_map, ofRound]

lemma totalPayouts_map_ofRound (rounds : List Round) :
    totalPayouts (rounds.map ofRound)
      = rounds.foldl (fun total round => total + round.payout) 0.0 := by
  simp only [totalPayouts, List.foldl_map, ofRound]

lemma nodup_eraseDups (names : List String) : names.eraseDups.Nodup := by
  match names with
  | [] => simp
  | name :: rest =>
    rw [List.eraseDups_cons, List.nodup_cons]
    refine ⟨by simp, ?_⟩
    exact nodup_eraseDups (rest.filter fun other => !other == name)
termination_by names.length
decreasing_by
  simpa using Nat.lt_succ_of_le (List.length_filter_le _ rest)

lemma length_players_map_ofRound (rounds : List Round) :
    (players (rounds.map ofRound)).length = (rounds.map (·.userId)).toFinset.card := by
  have hnames : (rounds.map ofRound).filterMap (·.userId) = rounds.map (·.userId) := by
    rw [List.filterMap_map, ← List.filterMap_eq_map]
    rfl
  have hset : (rounds.map (·.userId)).eraseDups.toFinset = (rounds.map (·.userId)).toFinset := by
    ext name
    simp
  rw [players, hnames, ← hset, List.toFinset_card_of_nodup (nodup_eraseDups _)]

end Play

lemma SessionStats.ofPlays?_map (rounds : List Round) :
    ofPlays? (rounds.map Play.ofRound) = ofRounds? rounds := by
  cases rounds with
  | nil => rfl
  | cons round rest =>
    rw [ofPlays?, Play.totalBets_map_ofRound, Play.totalPayouts_map_ofRound]
    simp [ofRounds?]

lemma RollingStats.ofPlays?_map (rounds : List Round) :
    ofPlays? (rounds.map Play.ofRound) = ofRounds? rounds := by
  cases rounds with
  | nil => rfl
  | cons round rest =>
    rw [ofPlays?, Play.totalBets_map_ofRound, Play.totalPayouts_map_ofRound,
      Play.length_players_map_ofRound]
    simp [ofRounds?]

namespace Store

/-! ### Saves -/

/-- A save: the time on the clock, the id that is given, and the round. -/
structure SaveCall where
  now : Instant
  id : String
  round : Round

/-- The round as it is saved. On a clock that is less than a day from the first instant nothing is.
-/
def SaveCall.saved? (c : SaveCall) : Option Round :=
  match windowStart c.now rollingHours with
  | .ok _ => some (c.round.withId c.id)
  | .error _ => none

/-- The store after a save, which leaves it as it was if it fails. -/
def afterSave (s : Store) (c : SaveCall) : Store :=
  match s.save c.now c.id c.round with
  | .ok (_, s') => s'
  | .error _ => s

def afterSaves (s : Store) (calls : List SaveCall) : Store := calls.foldl afterSave s

/-- All rounds that have been saved, in the order of the saves. -/
def history (calls : List SaveCall) : List Round := calls.filterMap SaveCall.saved?

variable {s : Store}

lemma save_of_ok {c : SaveCall} {cutoff : Instant}
    (h : windowStart c.now rollingHours = .ok cutoff) :
    s.save c.now c.id c.round = .ok (c.round.withId c.id, s.keep cutoff (c.round.withId c.id)) := by
  rw [save, h]
  rfl

lemma save_of_error {c : SaveCall} {e : WindowError}
    (h : windowStart c.now rollingHours = .error e) : s.save c.now c.id c.round = .error e := by
  rw [save, h]
  rfl

lemma windowStart_eq_ok {now start : Instant} {hours : Nat} :
    windowStart now hours = .ok start ↔ now.hoursBefore? hours = some start := by
  unfold windowStart
  cases now.hoursBefore? hours <;> simp

/-! ### The rounds that a window sees -/

lemma roundsSince_eq (s : Store) (since : Instant) :
    s.roundsSince since = s.rounds.filter (since ≤ ·.time) := by
  simp only [roundsSince, Instant.isBefore_eq, ← decide_not, not_lt]

lemma sessionStats_of_ok {now since : Instant} {hours : Nat}
    (h : windowStart now hours = .ok since) (userId : String) :
    s.sessionStats now userId hours = .ok (SessionStats.ofRounds?
      ((s.rounds.filter (since ≤ ·.time)).filter (·.userId == userId))) := by
  rw [← SessionStats.ofPlays?_map, ← roundsSince_eq]
  unfold sessionStats
  rw [h]
  rfl

lemma rollingStats_of_ok {now since : Instant} {hours : Nat}
    (h : windowStart now hours = .ok since) :
    s.rollingStats now hours =
      .ok (RollingStats.ofRounds? (s.rounds.filter (since ≤ ·.time))) := by
  rw [← RollingStats.ofPlays?_map, ← roundsSince_eq]
  unfold rollingStats
  rw [h]
  rfl

/-- Dropping from the front what a filter lets not pass changes nothing behind the filter. -/
lemma filter_dropWhile {α : Type} {p q : α → Bool} (h : ∀ a, p a = true → q a = false)
    (l : List α) : (l.dropWhile p).filter q = l.filter q := by
  induction l with
  | nil => rfl
  | cons a rest ih =>
    cases ha : p a with
    | true => simp [ha, ih, h a ha]
    | false => simp [ha]

/-- A window that starts no earlier than the cutoff of a save sees what it saw, and the new round if
that is in it. -/
lemma roundsSince_keep {cutoff since : Instant} (h : cutoff ≤ since) (round : Round) :
    (s.keep cutoff round).roundsSince since
      = s.roundsSince since ++ [round].filter (since ≤ ·.time) := by
  have hdrop : (s.rounds.dropWhile (·.time.isBefore cutoff)).filter (since ≤ ·.time)
      = s.rounds.filter (since ≤ ·.time) := by
    refine filter_dropWhile (fun r hr => ?_) s.rounds
    rw [Instant.isBefore_eq, decide_eq_true_iff] at hr
    simpa using hr.trans_le h
  rw [roundsSince_eq, roundsSince_eq]
  unfold keep
  dsimp only
  split
  case isTrue hround =>
    rw [Instant.isBefore_eq, decide_eq_true_iff] at hround
    have hout : ¬since ≤ round.time := not_le.2 (hround.trans_le h)
    rw [hdrop]
    simp [hout]
  case isFalse => rw [List.filter_append, hdrop]

/-- From `now` on, a window of a day or less sees of the store what it sees of the history. -/
def Shows (s : Store) (rounds : List Round) (now : Instant) : Prop :=
  ∀ later hours start, now ≤ later → hours ≤ rollingHours → windowStart later hours = .ok start →
    s.roundsSince start = rounds.filter (start ≤ ·.time)

lemma Shows.mono {rounds : List Round} {now later : Instant} (h : s.Shows rounds now)
    (hle : now ≤ later) : s.Shows rounds later :=
  fun later' hours start hle' => h later' hours start (hle.trans hle')

lemma Shows.afterSave {rounds : List Round} {c : SaveCall} (h : s.Shows rounds c.now) :
    (s.afterSave c).Shows (rounds ++ c.saved?.toList) c.now := by
  unfold Store.afterSave SaveCall.saved?
  cases hw : windowStart c.now rollingHours with
  | error e =>
    rw [save_of_error hw]
    simpa using h
  | ok cutoff =>
    rw [save_of_ok hw]
    intro later hours start hle hh hstart
    have hcut : cutoff ≤ start :=
      Instant.hoursBefore?_mono hle hh (windowStart_eq_ok.1 hw) (windowStart_eq_ok.1 hstart)
    dsimp only
    rw [roundsSince_keep hcut, h later hours start hle hh hstart, List.filter_append]
    rfl

/-- Saves in the order of the clock, from an empty store on. The induction is on the last save: what
came before it was saved no later. -/
lemma shows_afterSaves (hs : s.rounds = []) {calls : List SaveCall}
    (hclock : calls.Pairwise (·.now ≤ ·.now)) {now : Instant} (hnow : ∀ c ∈ calls, c.now ≤ now) :
    (s.afterSaves calls).Shows (history calls) now := by
  induction calls using List.reverseRecOn generalizing now with
  | nil =>
    intro later hours start _ _ _
    rw [roundsSince_eq]
    simp [afterSaves, history, hs]
  | append_singleton calls c ih =>
    obtain ⟨hcalls, -, hlast⟩ := List.pairwise_append.1 hclock
    have hshows : (s.afterSaves calls).Shows (history calls) c.now :=
      ih hcalls fun c' hc' => hlast c' hc' c (List.mem_singleton_self c)
    have hstep := hshows.afterSave.mono (hnow c (by simp))
    have hhistory : history (calls ++ [c]) = history calls ++ c.saved?.toList := by
      cases hc : c.saved? <;> simp [history, hc]
    rw [hhistory, afterSaves, List.foldl_append]
    exact hstep

/-- After any saves on a clock that does not go back, the statistics over a window of a day or less
are those of all rounds that have been saved, as if none had been dropped or turned away. -/
theorem stats_afterSaves (defaultBalance : Float) {calls : List SaveCall}
    (hclock : calls.Pairwise (·.now ≤ ·.now)) {now : Instant} (hnow : ∀ c ∈ calls, c.now ≤ now)
    {hours : Nat} (hh : hours ≤ 24) :
    let s := afterSaves { defaultBalance } calls
    (∀ userId, s.sessionStats now userId hours = (windowStart now hours).map fun start =>
      SessionStats.ofRounds?
        ((history calls).filter fun round => round.userId = userId ∧ start ≤ round.time)) ∧
    s.rollingStats now hours = (windowStart now hours).map fun start =>
      RollingStats.ofRounds? ((history calls).filter (start ≤ ·.time)) := by
  intro s
  have hshows : s.Shows (history calls) now := shows_afterSaves rfl hclock hnow
  unfold sessionStats rollingStats
  cases hstart : windowStart now hours with
  | error e => exact ⟨fun _ => rfl, rfl⟩
  | ok start =>
    have hsince := hshows now hours start le_rfl hh hstart
    refine ⟨fun userId => congrArg Except.ok ?_, congrArg Except.ok ?_⟩
    · rw [hsince, SessionStats.ofPlays?_map, List.filter_filter]
      simp only [Bool.decide_and, beq_eq_decide]
    · rw [hsince, RollingStats.ofPlays?_map]

/-- A round from tomorrow, one that has expired, and one that expires behind the first. -/
def lateSaves : List SaveCall :=
  let round (userId : String) (hour : Int) : Round := {
    id := none, userId, bet := 1.0, outcome := .losing ⟨.cherry, .lemon, .cherry⟩, payout := 0.0
    time := ⟨3600 * hour, 0⟩ }
  [⟨⟨0, 0⟩, "a", round "anna" 30⟩, ⟨⟨0, 0⟩, "b", round "ben" (-25)⟩,
    ⟨⟨0, 0⟩, "c", round "anna" (-23)⟩, ⟨⟨7200, 0⟩, "d", round "ben" 2⟩]

theorem stats_afterSaves_lateSaves :
    (history lateSaves).length = 4 ∧
    (afterSaves { defaultBalance := 0.0 } lateSaves).rounds.length = 3 ∧
    lateSaves.Pairwise (·.now ≤ ·.now) ∧ (∀ c ∈ lateSaves, c.now ≤ ⟨7200, 0⟩) ∧
    (afterSaves { defaultBalance := 0.0 } lateSaves).rollingStats ⟨7200, 0⟩ 24 =
      (windowStart ⟨7200, 0⟩ 24).map fun start =>
        RollingStats.ofRounds? ((history lateSaves).filter (start ≤ ·.time)) := by
  have hclock : lateSaves.Pairwise (·.now ≤ ·.now) := by decide
  have hnow : ∀ c ∈ lateSaves, c.now ≤ ⟨7200, 0⟩ := by decide
  exact ⟨rfl, rfl, hclock, hnow, (stats_afterSaves 0.0 hclock hnow (by decide)).2⟩

end Store

end SlotMachine
