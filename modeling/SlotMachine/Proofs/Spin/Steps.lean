import SlotMachine.Proofs.Draw.Loops
import SlotMachine.Spin

/-!
# Steps of heavy spins

A heavy spin takes words for its matrices and for another symbol where it breaks up three of a kind.
All its other steps do nothing but look at the flag and reckon. Whatever passes along `do` blocks
from single looks therefore passes to these steps, and where looks are counted, to so many of them.

What a spin comes to before three of a kind are broken up is the draft of its outcome
(`heavyDraft`).
-/

namespace SlotMachine

open Draw (Closed)

variable {P : {α : Type} → Spin α → Prop} {Q : Nat → {α : Type} → Spin α → Prop}

namespace Primes

lemma search_closed (hP : Closed P) (hlook : P Spin.checkpoint) (wanted : Nat)
    (found : List UInt64) (candidate : UInt64) : P (search wanted found candidate) := by
  induction wanted, found, candidate using search.induct with
  | case1 found candidate =>
    rw [search, if_pos rfl]
    exact hP.pure _
  | case2 wanted found candidate hwanted ih =>
    rw [search, if_neg hwanted]
    apply hP.bind hlook
    intro _
    by_cases hlast : candidate = lastWord
    · rw [dif_pos hlast]
      exact hP.pure _
    · rw [dif_neg hlast]
      exact ih hlast

end Primes

namespace Matrix

/-- A look for each row. -/
lemma product_graded (hQ : Graded Q) (hlook : Q 1 Spin.checkpoint) {n : Nat} (a b : Matrix n) :
    Q n (product a b) := by
  have h := hQ.ofFnM fun row : Fin n => hQ.bind hlook fun _ =>
    hQ.pure (Vector.ofFn fun col => cell a b row col)
  rwa [Nat.mul_one] at h

lemma products_graded (hQ : Graded Q) (hlook : Q 1 Spin.checkpoint) {n : Nat} (rounds : Nat)
    (a b : Matrix n) : Q (rounds * n) (rounds.foldM (fun _ _ a => product a b) a) :=
  hQ.foldM (fun _ _ a => product_graded hQ hlook a b) a

end Matrix

namespace Engine

/-- A look for each prime. -/
lemma heavySum_graded (hQ : Graded Q) (hlook : Q 1 Spin.checkpoint) (primes : List UInt64)
    (iterations : Nat) : Q primes.length (heavySum primes iterations) := by
  have h := hQ.foldlM (fun sum prime => hQ.bind hlook fun _ => hQ.pure
    (iterations.fold (fun i _ sum => heavyPass (UInt64.toFloat prime) sum i) sum)) primes 0.0
  rwa [Nat.mul_one] at h

/-- A look for each term. -/
lemma reelSum_graded (hQ : Graded Q) (hlook : Q 1 Spin.checkpoint) (prime : Float)
    (reel iterations : Nat) : Q iterations (reelSum prime reel iterations) := by
  have h := hQ.foldM (n := iterations) (fun j _ sum => hQ.bind hlook fun _ => hQ.pure
    (sum + Float.sin (prime * j.toUInt64.toFloat * (reel + 1).toUInt64.toFloat))) 0.0
  rwa [Nat.mul_one] at h

variable (e : Engine)

lemma heavyReel_graded (hQ : Graded Q) (hlook : Q 1 Spin.checkpoint) (primes : List UInt64)
    (reel : Nat) : Q e.heavy.iterations.toNat (e.heavyReel primes reel) :=
  hQ.bind (reelSum_graded hQ hlook _ _ _) fun _ => hQ.pure _

/-! ### Drafts -/

/-- What the primes make of a spin: an outcome whose reels, if it is lost, may still be three of a
kind. -/
def draftOf (primes : List UInt64) : Spin Outcome := do
  let sum ← heavySum primes e.heavy.iterations.toNat
  if Binary64.remainder sum.abs 100.0 / 100.0 < e.winProbability then
    pure (.winning (e.stop (sum * (primes[0]?.getD 1).toFloat)) e.table)
  else
    let first ← e.heavyReel primes 0
    let second ← e.heavyReel primes 1
    let third ← e.heavyReel primes 2
    pure (.losing ⟨first, second, third⟩)

/-- A heavy spin up to its draft. -/
def heavyDraft : Spin Outcome := do
  let primes ← Primes.upward e.heavy.primeFloor e.heavy.primeCount
  Matrix.burn e.heavy.matrixSize.toNat e.heavy.matrixRounds.toNat
  e.draftOf primes

/-- What is left to do for a draft. -/
def finish (draft : Outcome) : Spin Outcome :=
  if draft.win then pure draft
  else do
    let reels ← e.breakTie draft.reels
    pure (.losing reels)

lemma spinHeavy_eq : e.spinHeavy = e.heavyDraft >>= e.finish := by
  unfold spinHeavy heavyDraft draftOf
  simp only [bind_assoc]
  refine bind_congr fun primes => bind_congr fun _ => bind_congr fun sum => ?_
  split
  case isTrue => rfl
  case isFalse =>
    simp only [bind_assoc]
    rfl

lemma draftOf_closed (hP : Closed P) (hlook : P Spin.checkpoint) (primes : List UInt64) :
    P (e.draftOf primes) := by
  unfold draftOf
  apply hP.bind (heavySum_graded hP.graded hlook primes _)
  intro sum
  split
  case isTrue => exact hP.pure _
  case isFalse =>
    apply hP.bind (e.heavyReel_graded hP.graded hlook primes 0)
    intro first
    apply hP.bind (e.heavyReel_graded hP.graded hlook primes 1)
    intro second
    apply hP.bind (e.heavyReel_graded hP.graded hlook primes 2)
    intro third
    exact hP.pure _

lemma finish_closed (hP : Closed P) (hdraw : ∀ d : Draw Reels, P (liftM d : Spin Reels))
    (draft : Outcome) : P (e.finish draft) := by
  unfold finish
  split
  case isTrue => exact hP.pure draft
  case isFalse => exact hP.bind (hdraw (e.breakTie draft.reels)) fun _ => hP.pure _

end Engine

end SlotMachine
