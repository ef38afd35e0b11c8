import Mathlib.Algebra.BigOperators.Group.Finset.Piecewise
import SlotMachine.Proofs.Store.Retention

/-!
# All plays are the plays of the users

The statistics of all users and those of a single one are made apart, from the same rounds. Over any
window the statistics of all are those of the users who played, put together: the counts add up, and
so do the totals as far as it makes no difference in which order amounts are added. With doubles it
does make one, so totals are told for any commutative addition (`rollingTotals`, `sessionTotals`),
of which the statistics have the one of doubles.
-/

namespace SlotMachine

/-! ### Totals in any numbers -/

/-- What was bet and paid out, in numbers of some type. -/
structure Totals (N : Type) where
  bets : N
  payouts : N

namespace Totals

variable {N : Type}

/-- The totals of plays, added up from left to right, of amounts that are taken as numbers of the
type; of no plays there are none. -/
def ofPlays? [Zero N] [Add N] (amount : Float → N) (plays : List Play) : Option (Totals N) :=
  if plays.isEmpty then none
  else some {
    bets := plays.foldl (fun total play => total + amount play.bet) 0
    payouts := plays.foldl (fun total play => total + amount play.payout) 0 }

end Totals

def SessionStats.totals (stats : SessionStats) : Totals Float :=
  ⟨stats.totalBets, stats.totalPayouts⟩

def RollingStats.totals (stats : RollingStats) : Totals Float :=
  ⟨stats.totalBets, stats.totalPayouts⟩

namespace Store

variable {N : Type} (s : Store) (amount : Float → N) (now : Instant) (userId : String) (hours : Nat)

/-- The totals of one user. -/
def sessionTotals [Zero N] [Add N] : Except WindowError (Option (Totals N)) := do
  let since ← windowStart now hours
  let rounds := (s.roundsSince since).filter (·.userId == userId)
  pure (Totals.ofPlays? amount (rounds.map Play.ofRound))

/-- The totals of all users. -/
def rollingTotals [Zero N] [Add N] : Except WindowError (Option (Totals N)) := do
  let since ← windowStart now hours
  pure (Totals.ofPlays? amount ((s.roundsSince since).map Play.ofRound))

/-- With doubles, the totals are those of the statistics. -/
lemma sessionTotals_id : s.sessionTotals id now userId hours =
    (s.sessionStats now userId hours).map (Option.map SessionStats.totals) := by
  unfold sessionTotals sessionStats
  cases windowStart now hours with
  | error e => rfl
  | ok since =>
    refine congrArg Except.ok ?_
    unfold Totals.ofPlays? SessionStats.ofPlays?
    split_ifs <;> rfl

lemma rollingTotals_id : s.rollingTotals id now hours =
    (s.rollingStats now hours).map (Option.map RollingStats.totals) := by
  unfold rollingTotals rollingStats
  cases windowStart now hours with
  | error e => rfl
  | ok since =>
    refine congrArg Except.ok ?_
    unfold Totals.ofPlays? RollingStats.ofPlays?
    split_ifs <;> rfl

/-! ### Sums by user -/

section

variable {α κ : Type} [DecidableEq κ] [AddCommMonoid N]

/-- A sum over a list is the sum over the keys of its entries, of those with the key. -/
lemma sum_filter_key (key : α → κ) (f : α → N) {l : List α} {keys : Finset κ}
    (h : ∀ a ∈ l, key a ∈ keys) :
    ∑ k ∈ keys, ((l.filter (key · == k)).map f).sum = (l.map f).sum := by
  induction l with
  | nil => simp
  | cons a l ih =>
    have hsum (k : κ) : (((a :: l).filter (key · == k)).map f).sum =
        (if key a = k then f a else 0) + ((l.filter (key · == k)).map f).sum := by
      by_cases hk : key a = k
      · simp [hk]
      · simp [hk]
    rw [List.map_cons, List.sum_cons, ← ih fun b hb => h b (List.mem_cons_of_mem a hb)]
    simp only [hsum, Finset.sum_add_distrib, Finset.sum_ite_eq, h a List.mem_cons_self, if_true]

end

/-- The users who played rounds. -/
def usersOf (rounds : List Round) : Finset String := (rounds.map (·.userId)).toFinset

/-- The rounds of a user. -/
def roundsOf (rounds : List Round) (userId : String) : List Round :=
  rounds.filter (·.userId == userId)

variable {rounds : List Round}

lemma mem_usersOf {userId : String} :
    userId ∈ usersOf rounds ↔ ∃ round ∈ rounds, round.userId = userId := by
  simp [usersOf]

lemma roundsOf_ne_nil_iff {userId : String} :
    roundsOf rounds userId ≠ [] ↔ userId ∈ usersOf rounds := by
  rw [mem_usersOf, roundsOf, Ne, List.filter_eq_nil_iff]
  push Not
  simp

/-- Nobody has rounds exactly if there are none. -/
lemma eq_nil_iff_roundsOf (rounds : List Round) :
    rounds = [] ↔ ∀ userId, roundsOf rounds userId = [] := by
  constructor
  · rintro rfl userId
    rfl
  · intro h
    refine List.eq_nil_iff_forall_not_mem.2 fun round hround => ?_
    exact roundsOf_ne_nil_iff.2 (mem_usersOf.2 ⟨round, hround, rfl⟩) (h round.userId)

lemma sum_roundsOf [AddCommMonoid N] (f : Round → N) (rounds : List Round) :
    ∑ userId ∈ usersOf rounds, ((roundsOf rounds userId).map f).sum = (rounds.map f).sum :=
  sum_filter_key (·.userId) f fun round hround => mem_usersOf.2 ⟨round, hround, rfl⟩

lemma sum_length_roundsOf (rounds : List Round) :
    ∑ userId ∈ usersOf rounds, (roundsOf rounds userId).length = rounds.length := by
  simpa using sum_roundsOf (fun _ => (1 : Nat)) rounds

/-! ### Statistics of rounds -/

/-- What is told of all is put together from what is told of each user who played. -/
structure Unites (rolling : Option RollingStats) (session : String → Option SessionStats)
    (users : Finset String) : Prop where
  mem_users : ∀ userId, userId ∈ users ↔ (session userId).isSome
  eq_none_iff : rolling = none ↔ ∀ userId, session userId = none
  count_eq : ∀ stats ∈ rolling, stats.count = ∑ userId ∈ users, (session userId).elim 0 (·.count)
  uniquePlayers_eq : ∀ stats ∈ rolling, stats.uniquePlayers = users.card
  one_le_uniquePlayers : ∀ stats ∈ rolling, 1 ≤ stats.uniquePlayers
  uniquePlayers_le : ∀ stats ∈ rolling, stats.uniquePlayers ≤ stats.count

/-- The totals of all are those of the users, added up. -/
structure AddsUp [AddCommMonoid N] (rolling : Option (Totals N))
    (session : String → Option (Totals N)) (users : Finset String) : Prop where
  mem_users : ∀ userId, userId ∈ users ↔ (session userId).isSome
  eq_none_iff : rolling = none ↔ ∀ userId, session userId = none
  bets_eq : ∀ totals ∈ rolling, totals.bets = ∑ userId ∈ users, (session userId).elim 0 (·.bets)
  payouts_eq : ∀ totals ∈ rolling,
    totals.payouts = ∑ userId ∈ users, (session userId).elim 0 (·.payouts)

lemma sessionStats_eq_none_iff : SessionStats.ofRounds? rounds = none ↔ rounds = [] := by
  cases rounds <;> simp [SessionStats.ofRounds?]

lemma rollingStats_eq_none_iff : RollingStats.ofRounds? rounds = none ↔ rounds = [] := by
  cases rounds <;> simp [RollingStats.ofRounds?]

lemma elim_count (rounds : List Round) :
    (SessionStats.ofRounds? rounds).elim 0 (·.count) = rounds.length := by
  cases rounds <;> rfl

lemma of_mem_rollingStats {stats : RollingStats} (h : stats ∈ RollingStats.ofRounds? rounds) :
    stats.count = rounds.length ∧ stats.uniquePlayers = (usersOf rounds).card := by
  cases rounds with
  | nil => cases h
  | cons round rest =>
    obtain rfl := Option.some.inj h
    exact ⟨rfl, rfl⟩

lemma unites_ofRounds? (rounds : List Round) : Unites (RollingStats.ofRounds? rounds)
    (fun userId => SessionStats.ofRounds? (roundsOf rounds userId)) (usersOf rounds) where
  mem_users userId := by
    rw [← roundsOf_ne_nil_iff, Option.isSome_iff_ne_none, Ne, Ne, sessionStats_eq_none_iff]
  eq_none_iff := by
    simp only [rollingStats_eq_none_iff, sessionStats_eq_none_iff, eq_nil_iff_roundsOf rounds]
  count_eq stats hstats := by
    simp only [elim_count, sum_length_roundsOf, (of_mem_rollingStats hstats).1]
  uniquePlayers_eq stats hstats := (of_mem_rollingStats hstats).2
  one_le_uniquePlayers stats hstats := by
    rw [(of_mem_rollingStats hstats).2, Nat.one_le_iff_ne_zero, Finset.card_ne_zero]
    obtain ⟨round, hround⟩ := List.exists_mem_of_ne_nil rounds fun hnil => by
      rw [rollingStats_eq_none_iff.2 hnil] at hstats
      cases hstats
    exact ⟨round.userId, mem_usersOf.2 ⟨round, hround, rfl⟩⟩
  uniquePlayers_le stats hstats := by
    rw [(of_mem_rollingStats hstats).1, (of_mem_rollingStats hstats).2]
    exact (List.toFinset_card_le _).trans_eq (List.length_map _)

lemma totals_eq_none_iff [Zero N] [Add N] {amount : Float → N} :
    Totals.ofPlays? amount (rounds.map Play.ofRound) = none ↔ rounds = [] := by
  cases rounds <;> simp [Totals.ofPlays?]

lemma foldl_plays [AddCommMonoid N] (f : Play → N) (plays : List Play) :
    plays.foldl (fun total play => total + f play) 0 = (plays.map f).sum := by
  rw [List.sum_eq_foldl, List.foldl_map]

lemma of_mem_totals [AddCommMonoid N] {amount : Float → N} {totals : Totals N}
    (h : totals ∈ Totals.ofPlays? amount (rounds.map Play.ofRound)) :
    totals.bets = (rounds.map fun round => amount round.bet).sum ∧
    totals.payouts = (rounds.map fun round => amount round.payout).sum := by
  unfold Totals.ofPlays? at h
  split at h
  case isTrue => cases h
  case isFalse =>
    obtain rfl := Option.some.inj h
    simp only [foldl_plays, List.map_map]
    exact ⟨rfl, rfl⟩

lemma elim_bets [AddCommMonoid N] (amount : Float → N) (rounds : List Round) :
    (Totals.ofPlays? amount (rounds.map Play.ofRound)).elim 0 (·.bets) =
      (rounds.map fun round => amount round.bet).sum := by
  cases h : Totals.ofPlays? amount (rounds.map Play.ofRound) with
  | none =>
    rw [totals_eq_none_iff.1 h]
    rfl
  | some totals => exact (of_mem_totals h).1

lemma elim_payouts [AddCommMonoid N] (amount : Float → N) (rounds : List Round) :
    (Totals.ofPlays? amount (rounds.map Play.ofRound)).elim 0 (·.payouts) =
      (rounds.map fun round => amount round.payout).sum := by
  cases h : Totals.ofPlays? amount (rounds.map Play.ofRound) with
  | none =>
    rw [totals_eq_none_iff.1 h]
    rfl
  | some totals => exact (of_mem_totals h).2

lemma addsUp_ofPlays? [AddCommMonoid N] (amount : Float → N) (rounds : List Round) :
    AddsUp (Totals.ofPlays? amount (rounds.map Play.ofRound))
      (fun userId => Totals.ofPlays? amount ((roundsOf rounds userId).map Play.ofRound))
      (usersOf rounds) where
  mem_users userId := by
    rw [← roundsOf_ne_nil_iff, Option.isSome_iff_ne_none, Ne, Ne, totals_eq_none_iff]
  eq_none_iff := by
    simp only [totals_eq_none_iff, eq_nil_iff_roundsOf rounds]
  bets_eq totals htotals := by
    simp only [elim_bets, sum_roundsOf, (of_mem_totals htotals).1]
  payouts_eq totals htotals := by
    simp only [elim_payouts, sum_roundsOf, (of_mem_totals htotals).2]

lemma sessionTotals_of_ok [Zero N] [Add N] {since : Instant}
    (h : windowStart now hours = .ok since) : s.sessionTotals amount now userId hours =
      .ok (Totals.ofPlays? amount
        ((roundsOf (s.rounds.filter (since ≤ ·.time)) userId).map Play.ofRound)) := by
  rw [← roundsSince_eq]
  unfold sessionTotals
  rw [h]
  rfl

lemma rollingTotals_of_ok [Zero N] [Add N] {since : Instant}
    (h : windowStart now hours = .ok since) : s.rollingTotals amount now hours =
      .ok (Totals.ofPlays? amount ((s.rounds.filter (since ≤ ·.time)).map Play.ofRound)) := by
  rw [← roundsSince_eq]
  unfold rollingTotals
  rw [h]
  rfl

/-! ### The main result -/

/-- Over any window, at any time, the statistics of all users are those of each user put together:
there are none exactly if no user has any, the counts add up, and the number of players is that of
the users who have statistics, at least one and at most the count. With any commutative addition in
place of that of doubles the totals add up as well. A window that begins before the first instant
fails alike for all and for each. -/
theorem rollingStats_unites (s : Store) (now : Instant) (hours : Nat) :
    (∃ e, windowStart now hours = .error e ∧ s.rollingStats now hours = .error e ∧
      ∀ userId, s.sessionStats now userId hours = .error e) ∨
    ∃ rolling session users, s.rollingStats now hours = .ok rolling ∧
      (∀ userId, s.sessionStats now userId hours = .ok (session userId)) ∧
      Unites rolling session users ∧
      s.rollingTotals id now hours = .ok (rolling.map RollingStats.totals) ∧
      (∀ userId, s.sessionTotals id now userId hours =
        .ok ((session userId).map SessionStats.totals)) ∧
      ∀ (N : Type) [AddCommMonoid N] (amount : Float → N), ∃ total part,
        s.rollingTotals amount now hours = .ok total ∧
        (∀ userId, s.sessionTotals amount now userId hours = .ok (part userId)) ∧
        AddsUp total part users := by
  cases hstart : windowStart now hours with
  | error e =>
    left
    refine ⟨e, rfl, ?_, fun userId => ?_⟩
    · rw [rollingStats, hstart]
      rfl
    · rw [sessionStats, hstart]
      rfl
  | ok since =>
    right
    have hrolling := rollingStats_of_ok (s := s) hstart
    have hsession := sessionStats_of_ok (s := s) hstart
    refine ⟨_, _, _, hrolling, hsession, unites_ofRounds? _, ?_, fun userId => ?_,
      fun N _ amount => ⟨_, _, rollingTotals_of_ok s amount now hours hstart,
        fun userId => sessionTotals_of_ok s amount now userId hours hstart,
        addsUp_ofPlays? amount _⟩⟩
    · rw [rollingTotals_id, hrolling]
      rfl
    · rw [sessionTotals_id, hsession]
      rfl

end Store

end SlotMachine
