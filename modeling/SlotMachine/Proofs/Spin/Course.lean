import SlotMachine.Proofs.Primes.Search
import SlotMachine.Proofs.Spin.Capacity

/-!
# The course of a heavy spin

A heavy spin looks at the flag before each word that it tries for a prime, then takes the words for
its matrices, and then looks again: before each row of a product, before each prime that it adds up
and before each term of a reel. Its course is fixed by the settings and by whether its draft wins.
-/

namespace SlotMachine

open Spin (Follows onlyLooks_graded checkpoint_onlyLooks)

namespace Matrix

lemma random_takes (n : Nat) : (random n).Takes (n * n) := by
  have h := Draw.takes_graded.ofFnM fun _ : Fin n =>
    Draw.takes_graded.ofFnM fun _ : Fin n => Draw.unit_takes
  rwa [Nat.mul_one] at h

lemma random_blind (n : Nat) : (random n).Blind :=
  Draw.blind_graded.ofFnM (k := 0) fun _ => Draw.blind_graded.ofFnM (k := 0) fun _ =>
    Draw.unit_blind

/-- How many words the matrices take. -/
def burntWords (size rounds : Nat) : Nat :=
  if size = 0 ∨ rounds = 0 then 0 else 2 * size ^ 2

/-- First the words of two matrices, then a look before each row of each product. -/
def course (size rounds : Nat) : List Act :=
  .replicate (burntWords size rounds) .word ++ .replicate (rounds * size) .look

lemma burn_follows (size rounds : Nat) (h : rounds ≠ 0 → size * size < Spin.maxLength) :
    Follows (burn size rounds) (course size rounds) fun _ => True := by
  unfold burn course burntWords
  split
  case isTrue hnone =>
    rw [Nat.mul_eq_zero.2 hnone.symm]
    exact Spin.follows_pure trivial
  case isFalse hnone =>
    rw [sq, Nat.two_mul, List.replicate_add, List.append_assoc]
    apply (Spin.reserve_follows (h fun hrounds => hnone (Or.inr hrounds))).bind_nil
    intro _ _
    apply (Spin.follows_liftM (random_blind size) (random_takes size)).bind
    intro a _
    apply (Spin.follows_liftM (random_blind size) (random_takes size)).bind
    intro b _
    obtain ⟨_, hproducts⟩ := products_graded onlyLooks_graded checkpoint_onlyLooks rounds a b
    exact hproducts.bind_last fun _ _ => Spin.follows_pure trivial

variable {size rounds : Nat} {meter point : Meter}

lemma drawn_after_course :
    (Act.after (course size rounds) meter).drawn = meter.drawn + burntWords size rounds := by
  rw [course, Act.after_append, Act.drawn_after_looks, Act.after_words]

/-- All looks at the matrices come after their words. -/
lemma drawn_of_mem_course (h : point ∈ Act.looks (course size rounds) meter) :
    point.drawn = meter.drawn + burntWords size rounds := by
  rw [course, Act.looks_append, Act.looks_words, List.nil_append, Act.after_words] at h
  exact Act.drawn_of_mem_looks h

/-- Where there are words for matrices, there are rows. -/
lemma exists_mem_course (h : burntWords size rounds ≠ 0) :
    ∃ point, point ∈ Act.looks (course size rounds) meter := by
  have hrows : rounds * size ≠ 0 := fun hzero => h (if_pos (Nat.mul_eq_zero.1 hzero).symm)
  rw [course, Act.looks_append, Act.looks_words]
  exact ⟨_, Act.mem_looks hrows⟩

end Matrix

namespace Engine

variable (e : Engine)

/-- How many words the settings take for matrices. -/
def burntWords : Nat := Matrix.burntWords e.heavy.matrixSize.toNat e.heavy.matrixRounds.toNat

/-- How often a spin looks at the flag while it makes a draft from so many primes. -/
def draftLooks (found : Nat) (draft : Outcome) : Nat :=
  found + if draft.win then 0 else 3 * e.heavy.iterations.toNat

lemma draftLooks_winning (found : Nat) (s : Symbol) (t : SymbolTable) :
    e.draftLooks found (.winning s t) = found := rfl

lemma draftLooks_losing (found : Nat) (reels : Reels) : e.draftLooks found (.losing reels) =
    found + (e.heavy.iterations.toNat + (e.heavy.iterations.toNat + e.heavy.iterations.toNat)) := by
  show found + 3 * e.heavy.iterations.toNat = _
  ring

lemma draftOf_follows (primes : List UInt64) : ∃ draft : Outcome, (e.draftOf primes).Follows
    (.replicate (e.draftLooks primes.length draft) .look) (· = draft) := by
  obtain ⟨sum, hsum⟩ :=
    heavySum_graded onlyLooks_graded checkpoint_onlyLooks primes e.heavy.iterations.toNat
  unfold draftOf
  by_cases hwin : Binary64.remainder sum.abs 100.0 / 100.0 < e.winProbability
  · refine ⟨.winning (e.stop (sum * (primes[0]?.getD 1).toFloat)) e.table, ?_⟩
    rw [draftLooks_winning]
    apply hsum.bind_last
    rintro _ rfl
    rw [if_pos hwin]
    exact Spin.follows_pure rfl
  · have hreel := e.heavyReel_graded onlyLooks_graded checkpoint_onlyLooks primes
    obtain ⟨first, hfirst⟩ := hreel 0
    obtain ⟨second, hsecond⟩ := hreel 1
    obtain ⟨third, hthird⟩ := hreel 2
    refine ⟨.losing ⟨first, second, third⟩, ?_⟩
    rw [draftLooks_losing, List.replicate_add, List.replicate_add, List.replicate_add]
    apply hsum.bind
    rintro _ rfl
    rw [if_neg hwin]
    apply hfirst.bind
    rintro first rfl
    apply hsecond.bind
    rintro second rfl
    apply hthird.bind_last
    rintro third rfl
    exact Spin.follows_pure rfl

/-- All that a heavy spin with this draft does, but for breaking up three of a kind. -/
def course (draft : Outcome) : List Act :=
  let floor := Primes.wordsFrom e.heavy.primeFloor.toNat
  let count := e.heavy.primeCount.toNat
  .replicate (Primes.tries count floor) .look ++
    (Matrix.course e.heavy.matrixSize.toNat e.heavy.matrixRounds.toNat ++
      .replicate (e.draftLooks (Primes.firstPrimes count floor).length draft) .look)

variable {e}

lemma heavyDraft_follows (hprimes : e.heavy.PrimesFit) (hmatrices : e.heavy.MatricesFit) :
    ∃ draft, e.heavyDraft.Follows (e.course draft) (· = draft) := by
  obtain ⟨primes, hfirst, hsearch⟩ := Primes.upward_finds e.heavy.primeFloor hprimes
  obtain ⟨draft, hdraft⟩ := e.draftOf_follows primes
  refine ⟨draft, ?_⟩
  rw [course, ← hfirst, List.length_map]
  apply hsearch.bind
  rintro _ rfl
  have hfit : e.heavy.matrixRounds.toNat ≠ 0 →
      e.heavy.matrixSize.toNat * e.heavy.matrixSize.toNat < Spin.maxLength :=
    fun hrounds => hmatrices fun h => hrounds (congrArg UInt32.toNat h)
  exact (Matrix.burn_follows _ _ hfit).bind fun _ _ => hdraft

/-! ### Where the looks are -/

section

variable {draft : Outcome} {meter point : Meter}

lemma tries_ne_zero (e : Engine) :
    Primes.tries e.heavy.primeCount.toNat (Primes.wordsFrom e.heavy.primeFloor.toNat) ≠ 0 := by
  have hthree := UInt64.le_iff_toNat_le.1 e.three_le_primeCount
  apply Primes.tries_ne_zero
  intro hzero
  rw [hzero] at hthree
  exact absurd hthree (by decide)

/-- The first look comes before anything else. -/
lemma course_eq_cons (e : Engine) (draft : Outcome) : ∃ rest, e.course draft = .look :: rest := by
  obtain ⟨n, hn⟩ := Nat.exists_eq_succ_of_ne_zero e.tries_ne_zero
  rw [course, hn, List.replicate_succ]
  exact ⟨_, rfl⟩

/-- The only words on a course are those for the matrices. -/
lemma drawn_after_course (e : Engine) (draft : Outcome) (meter : Meter) :
    (Act.after (e.course draft) meter).drawn = meter.drawn + e.burntWords := by
  rw [course, Act.after_append, Act.after_append, Act.drawn_after_looks, Matrix.drawn_after_course,
    Act.drawn_after_looks]
  rfl

/-- No word is taken between the last words for the matrices and the last look. -/
lemma drawn_le_of_mem_course (h : point ∈ Act.looks (e.course draft) meter) :
    point.drawn ≤ meter.drawn + e.burntWords := by
  rw [course, Act.looks_append, Act.looks_append, List.mem_append, List.mem_append] at h
  rcases h with h | h | h
  · rw [Act.drawn_of_mem_looks h]
    exact Nat.le_add_right _ _
  · rw [Matrix.drawn_of_mem_course h, Act.drawn_after_looks]
    exact le_rfl
  · rw [Act.drawn_of_mem_looks h, Matrix.drawn_after_course, Act.drawn_after_looks]
    exact le_rfl

/-- There is a look once all words for the matrices have been taken. -/
lemma exists_mem_course (e : Engine) (draft : Outcome) (meter : Meter) :
    ∃ point ∈ Act.looks (e.course draft) meter, point.drawn = meter.drawn + e.burntWords := by
  by_cases hnone : e.burntWords = 0
  · obtain ⟨rest, hcourse⟩ := e.course_eq_cons draft
    rw [hcourse, hnone]
    exact ⟨meter, List.mem_cons_self, rfl⟩
  · obtain ⟨point, hpoint⟩ := Matrix.exists_mem_course hnone
    refine ⟨point, ?_, ?_⟩
    · rw [course, Act.looks_append, Act.looks_append]
      exact List.mem_append_right _ (List.mem_append_left _ hpoint)
    · rw [Matrix.drawn_of_mem_course hpoint, Act.drawn_after_looks]
      rfl

end

end Engine

end SlotMachine
