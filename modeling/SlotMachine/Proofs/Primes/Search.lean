import Mathlib.Order.Interval.Finset.Nat
import SlotMachine.Proofs.Draw.Courses
import SlotMachine.Proofs.Primes.TrialDivision

/-!
# The search for primes

The search tries one word after the other, and looks at the flag before each of them. What it finds
are the first primes from its floor on, as many as are asked for or as there are words left, with
none of them passed over.
-/

namespace SlotMachine

namespace Primes

/-- All words from a number on, in order. -/
def wordsFrom (floor : Nat) : List Nat := .range' floor (UInt64.size - floor)

/-- How many of these numbers have to be tried to find so many primes. -/
def tries : Nat → List Nat → Nat
  | 0, _ => 0
  | _ + 1, [] => 0
  | wanted + 1, n :: rest => tries (if n.Prime then wanted else wanted + 1) rest + 1

/-- The first primes among these numbers. -/
def firstPrimes (wanted : Nat) (numbers : List Nat) : List Nat :=
  (numbers.filter Nat.Prime).take wanted

lemma wordsFrom_of_lt {n : Nat} (h : n < UInt64.size) : wordsFrom n = n :: wordsFrom (n + 1) := by
  rw [wordsFrom, ← Nat.succ_pred_eq_of_pos (Nat.sub_pos_of_lt h), List.range'_succ]
  rfl

lemma toNat_succ_candidate {candidate : UInt64} (h : candidate ≠ lastWord) :
    (candidate + 1).toNat = candidate.toNat + 1 := by
  have hnext := next?_eq candidate
  rw [if_neg h, next?] at hnext
  split at hnext
  case isTrue hlt => rw [UInt64.toNat_add, UInt64.toNat_one, Nat.mod_eq_of_lt hlt]
  case isFalse => cases hnext

lemma firstPrimes_cons (wanted n : Nat) (rest : List Nat) :
    firstPrimes (wanted + 1) (n :: rest) = (if n.Prime then [n] else []) ++
      firstPrimes (if n.Prime then wanted else wanted + 1) rest := by
  unfold firstPrimes
  split
  case isTrue h => rw [List.filter_cons_of_pos (by simpa using h)]; rfl
  case isFalse h => rw [List.filter_cons_of_neg (by simpa using h)]; rfl

lemma tries_zero (numbers : List Nat) : tries 0 numbers = 0 := by
  cases numbers <;> rfl

lemma tries_nil (wanted : Nat) : tries wanted [] = 0 := by
  cases wanted <;> rfl

lemma tries_ne_zero (floor : UInt64) {wanted : Nat} (hwanted : wanted ≠ 0) :
    tries wanted (wordsFrom floor.toNat) ≠ 0 := by
  obtain ⟨wanted, rfl⟩ := Nat.exists_eq_succ_of_ne_zero hwanted
  rw [wordsFrom_of_lt floor.toNat_lt_size]
  exact Nat.succ_ne_zero _

/-- The spin looks at the flag once for each number that is tried, and adds the primes among them to
those `found` already. -/
def Finds (x : Spin (List UInt64)) (wanted : Nat) (found : List UInt64) (numbers : List Nat) :
    Prop :=
  ∃ primes : List UInt64, primes.map (·.toNat) = firstPrimes wanted numbers ∧
    x.Follows (.replicate (tries wanted numbers) .look) (· = found.reverse ++ primes)

lemma finds_nothing {wanted : Nat} {numbers : List Nat} (found : List UInt64)
    (hprimes : firstPrimes wanted numbers = []) (htries : tries wanted numbers = 0) :
    Finds (pure found.reverse) wanted found numbers := by
  refine ⟨[], hprimes.symm, ?_⟩
  rw [htries, List.append_nil]
  exact Spin.follows_pure rfl

/-- After a candidate the search is over if that was the last word. -/
lemma finds_next {wanted : Nat} {found : List UInt64} {candidate : UInt64}
    (hnext : candidate ≠ lastWord → Finds (search wanted found (candidate + 1)) wanted found
      (wordsFrom (candidate + 1).toNat)) :
    Finds (if candidate = lastWord then pure found.reverse else search wanted found (candidate + 1))
      wanted found (wordsFrom (candidate.toNat + 1)) := by
  split
  case isTrue hlast =>
    subst hlast
    exact finds_nothing found List.take_nil (tries_nil wanted)
  case isFalse hlast =>
    rw [← toNat_succ_candidate hlast]
    exact hnext hlast

lemma Finds.hit {x : Spin (List UInt64)} {wanted : Nat} {found : List UInt64} {candidate : UInt64}
    {rest : List Nat} (hx : Finds x wanted (candidate :: found) rest)
    (hprime : candidate.toNat.Prime) :
    Finds (Spin.checkpoint >>= fun _ => x) (wanted + 1) found (candidate.toNat :: rest) := by
  obtain ⟨primes, hprimes, hcourse⟩ := hx
  refine ⟨candidate :: primes, ?_, ?_⟩
  · rw [firstPrimes_cons, if_pos hprime, if_pos hprime, List.map_cons, hprimes]
    rfl
  · rw [tries, if_pos hprime, List.replicate_succ]
    rw [List.reverse_cons, List.append_assoc] at hcourse
    exact Spin.checkpoint_follows.bind fun _ _ => hcourse

lemma Finds.miss {x : Spin (List UInt64)} {wanted : Nat} {found : List UInt64} {n : Nat}
    {rest : List Nat} (hx : Finds x (wanted + 1) found rest) (hprime : ¬n.Prime) :
    Finds (Spin.checkpoint >>= fun _ => x) (wanted + 1) found (n :: rest) := by
  obtain ⟨primes, hprimes, hcourse⟩ := hx
  refine ⟨primes, ?_, ?_⟩
  · rw [firstPrimes_cons, if_neg hprime, if_neg hprime, hprimes]
    rfl
  · rw [tries, if_neg hprime, List.replicate_succ]
    exact Spin.checkpoint_follows.bind fun _ _ => hcourse

lemma finds_search (wanted : Nat) (found : List UInt64) (candidate : UInt64) :
    Finds (search wanted found candidate) wanted found (wordsFrom candidate.toNat) := by
  induction wanted, found, candidate using search.induct with
  | case1 found candidate =>
    rw [search, if_pos rfl]
    exact finds_nothing found rfl (tries_zero _)
  | case2 wanted found candidate hwanted ih =>
    obtain ⟨wanted, rfl⟩ := Nat.exists_eq_succ_of_ne_zero hwanted
    rw [search, if_neg hwanted, wordsFrom_of_lt candidate.toNat_lt_size]
    have hnext := finds_next ih
    by_cases hhit : isPrime candidate = true
    · simp only [hhit, dite_true, Nat.succ_sub_one] at hnext
      simp only [hhit, if_true, dite_eq_ite, Nat.succ_sub_one]
      exact hnext.hit (isPrime_iff.1 hhit)
    · simp only [hhit] at hnext
      simp only [hhit, dite_eq_ite]
      exact hnext.miss fun h => hhit (isPrime_iff.2 h)

/-! ### What is found -/

lemma upward_finds (floor : UInt64) {count : UInt64} (h : count.toNat < Spin.maxLength) :
    Finds (upward floor count) count.toNat [] (wordsFrom floor.toNat) := by
  obtain ⟨primes, hprimes, hcourse⟩ := finds_search count.toNat [] floor
  exact ⟨primes, hprimes, (Spin.reserve_follows h).bind_nil fun _ _ => hcourse⟩

/-- These are the first `count` primes from `floor` on, or all that are words. -/
structure ArePrimesFrom (floor count : Nat) (primes : List UInt64) : Prop where
  increasing : primes.Pairwise (· < ·)
  prime : ∀ p ∈ primes, floor ≤ p.toNat ∧ p.toNat.Prime
  length_eq : primes.length = min count {p ∈ Finset.Ico floor UInt64.size | p.Prime}.card
  /-- No prime is passed over: if one is missing, there are already as many as are asked for, all of
  them below it. -/
  complete : ∀ q : UInt64, floor ≤ q.toNat → q.toNat.Prime → q ∉ primes →
    primes.length = count ∧ ∀ p ∈ primes, p < q

lemma mem_filter_wordsFrom {floor n : Nat} : n ∈ (wordsFrom floor).filter Nat.Prime ↔
    floor ≤ n ∧ n < UInt64.size ∧ n.Prime := by
  rw [List.mem_filter, wordsFrom, List.mem_range'_1, decide_eq_true_iff, and_assoc]
  refine and_congr_right fun hle => and_congr_left fun _ => ?_
  omega

lemma pairwise_filter_wordsFrom (floor : Nat) :
    ((wordsFrom floor).filter Nat.Prime).Pairwise (· < ·) :=
  List.Pairwise.sublist List.filter_sublist List.pairwise_lt_range'

/-- An interval of numbers is made of the list of them. -/
lemma card_filter_Ico (floor : Nat) : {p ∈ Finset.Ico floor UInt64.size | p.Prime}.card =
    ((wordsFrom floor).filter Nat.Prime).length := rfl

lemma mem_iff_of_map_eq {primes : List UInt64} {numbers : List Nat}
    (h : primes.map (·.toNat) = numbers) {p : UInt64} : p ∈ primes ↔ p.toNat ∈ numbers := by
  rw [← h, List.mem_map]
  constructor
  · exact fun hp => ⟨p, hp, rfl⟩
  · rintro ⟨p', hp', heq⟩
    exact UInt64.toNat_inj.1 heq ▸ hp'

/-- What is missing in the first part of a list in order comes after all of it. -/
lemma lt_of_mem_of_not_mem_take {numbers : List Nat} {count q : Nat}
    (hsorted : numbers.Pairwise (· < ·)) (hq : q ∈ numbers) (hmissing : q ∉ numbers.take count) :
    count < numbers.length ∧ ∀ p ∈ numbers.take count, p < q := by
  rw [← List.take_append_drop count numbers] at hq hsorted
  have hlater : q ∈ numbers.drop count := (List.mem_append.1 hq).resolve_left hmissing
  constructor
  · have hpos := List.length_pos_of_mem hlater
    rw [List.length_drop] at hpos
    exact Nat.lt_of_sub_pos hpos
  · intro p hp
    exact (List.pairwise_append.1 hsorted).2.2 p hp q hlater

lemma arePrimesFrom_of_map_eq {floor count : Nat} {primes : List UInt64}
    (h : primes.map (·.toNat) = firstPrimes count (wordsFrom floor)) :
    ArePrimesFrom floor count primes := by
  have hsorted := pairwise_filter_wordsFrom floor
  have hlength : primes.length = min count ((wordsFrom floor).filter Nat.Prime).length := by
    rw [← List.length_take, ← List.length_map (f := (·.toNat)), h, firstPrimes]
  refine ⟨?_, ?_, hlength.trans (congrArg _ (card_filter_Ico floor).symm), ?_⟩
  · have hfirst : (primes.map (·.toNat)).Pairwise (· < ·) := by
      rw [h]
      exact hsorted.sublist (List.take_sublist _ _)
    exact (List.pairwise_map.1 hfirst).imp UInt64.lt_iff_toNat_lt.2
  · intro p hp
    have hfirst := (mem_iff_of_map_eq h).1 hp
    obtain ⟨hle, -, hprime⟩ := mem_filter_wordsFrom.1 (List.mem_of_mem_take hfirst)
    exact ⟨hle, hprime⟩
  · intro q hle hprime hmissing
    obtain ⟨hlt, hbelow⟩ := lt_of_mem_of_not_mem_take hsorted
      (mem_filter_wordsFrom.2 ⟨hle, q.toNat_lt_size, hprime⟩) (mt (mem_iff_of_map_eq h).2 hmissing)
    refine ⟨hlength.trans (Nat.min_eq_left hlt.le), fun p hp => ?_⟩
    exact UInt64.lt_iff_toNat_lt.2 (hbelow _ ((mem_iff_of_map_eq h).1 hp))

/-- The search comes to an end with the first primes from its floor on, in order and with none
passed over: as many as are asked for, or all that are words. Nothing leaves the range of words on
the way: trial division passes all checks, whatever it is asked about, and is over after `2 ^ 32`
turns at the latest, and only the last candidate has no next one. A flag that is up from the start
cancels the search, unless no prime is asked for. -/
theorem upward_arePrimesFrom (floor count : UInt64) (h : count.toNat < Spin.maxLength) :
    (∀ chance meter, chance.Unraised → ∃ primes,
      (upward floor count chance meter).1 = .ok primes ∧
      ArePrimesFrom floor.toNat count.toNat primes) ∧
    (∀ n, isPrime? (2 ^ 32) n = some (isPrime n)) ∧
    (∀ candidate, next? candidate = if candidate = lastWord then none else some (candidate + 1)) ∧
    ∀ chance meter, chance.isUpAt meter = true →
      (upward floor count chance meter).1 = if count = 0 then .ok [] else .error .cancelled := by
  obtain ⟨primes, hprimes, hcourse⟩ := upward_finds floor h
  refine ⟨?_, isPrime?_eq, next?_eq, ?_⟩
  · intro chance meter hflag
    obtain ⟨found, hrun, rfl⟩ := hcourse.of_unraised hflag meter
    exact ⟨found, congrArg Prod.fst hrun, arePrimesFrom_of_map_eq hprimes⟩
  · intro chance meter hflag
    split
    case isTrue hzero =>
      subst hzero
      rw [upward, search]
      rfl
    case isFalse hzero =>
      have hcount : count.toNat ≠ 0 := fun hc => hzero (UInt64.toNat_inj.1 hc)
      obtain ⟨n, hn⟩ := Nat.exists_eq_succ_of_ne_zero (tries_ne_zero floor hcount)
      rw [hn, List.replicate_succ] at hcourse
      rw [hcourse.of_isUpAt hflag]

theorem upward_arePrimesFrom_ten :
    let calm : Chance := ⟨fun _ => 0, fun _ _ => false⟩
    let raised : Chance := ⟨fun _ => 0, fun _ _ => true⟩
    (3 : UInt64).toNat < Spin.maxLength ∧ calm.Unraised ∧ raised.isUpAt {} = true ∧
    (upward 10 3 calm {}).1 = .ok [11, 13, 17] ∧ ArePrimesFrom 10 3 [11, 13, 17] ∧
    (upward 10 3 raised {}).1 = .error .cancelled := by
  intro calm raised
  have hcount : (3 : UInt64).toNat < Spin.maxLength := by decide
  have hfound : (upward 10 3 calm {}).1 = .ok [11, 13, 17] := by decide +kernel
  obtain ⟨hfinds, -, -, hcancelled⟩ := upward_arePrimesFrom 10 3 hcount
  obtain ⟨primes, hresult, hprimes⟩ := hfinds calm {} fun _ _ => rfl
  obtain rfl : primes = [11, 13, 17] := Except.ok.inj (hresult.symm.trans hfound)
  exact ⟨hcount, fun _ _ => rfl, rfl, hfound, hprimes, hcancelled raised {} rfl⟩

end Primes

end SlotMachine
