import Mathlib.Tactic.Common
import SlotMachine.Draw

/-!
# Loops in draws

Whatever property of draws passes along a `do` block also passes from the turns of a loop to the
whole loop. If it counts something in each step, a loop has as much of it as its turns together.
-/

namespace SlotMachine

variable {α β : Type}

/-- A property with a number, which `pure` has with zero; the numbers of two steps add up. -/
structure Graded {m : Type → Type} [Monad m] (P : Nat → {α : Type} → m α → Prop) : Prop where
  pure : ∀ {α : Type} (a : α), P 0 (pure a : m α)
  bind : ∀ {α β : Type} {k n : Nat} {x : m α} {f : α → m β},
    P k x → (∀ a, P n (f a)) → P (k + n) (x >>= f)

namespace Graded

variable {m : Type → Type} [Monad m] {P : Nat → {α : Type} → m α → Prop} {k n : Nat}

lemma foldlM (hP : Graded P) {f : β → α → m β} (hf : ∀ b a, P k (f b a)) (as : List α) (b : β) :
    P (as.length * k) (as.foldlM f b) := by
  induction as generalizing b with
  | nil =>
    rw [List.length_nil, Nat.zero_mul]
    exact hP.pure b
  | cons a as ih =>
    rw [List.foldlM_cons, List.length_cons, Nat.succ_mul, Nat.add_comm]
    exact hP.bind (hf b a) ih

/-- A loop that counts its turns down. -/
lemma countdown (hP : Graded P) {turn : (i : Nat) → i < n → α → m α}
    {loop : (i : Nat) → i ≤ n → α → m α} (hzero : ∀ h a, loop 0 h a = Pure.pure a)
    (hsucc : ∀ i (h : i + 1 ≤ n) (hlt : n - i - 1 < n) a,
      loop (i + 1) h a = turn (n - i - 1) hlt a >>= loop i (Nat.le_of_lt h))
    (hturn : ∀ i h a, P k (turn i h a)) (i : Nat) (h : i ≤ n) (a : α) :
    P (i * k) (loop i h a) := by
  induction i generalizing a with
  | zero =>
    rw [hzero, Nat.zero_mul]
    exact hP.pure a
  | succ i ih =>
    rw [hsucc i h (by omega), Nat.succ_mul, Nat.add_comm]
    exact hP.bind (hturn _ _ a) fun a' => ih _ a'

lemma foldM (hP : Graded P) {f : (i : Nat) → i < n → α → m α} (hf : ∀ i h a, P k (f i h a))
    (a : α) : P (n * k) (n.foldM f a) := by
  -- the loop inside has no name of its own, so it is only told by its two equations
  unfold Nat.foldM
  exact hP.countdown (fun _ _ => rfl) (fun _ _ _ _ => rfl) hf n _ a

lemma ofFnM [LawfulMonad m] (hP : Graded P) {f : Fin n → m α} (hf : ∀ i, P k (f i)) :
    P (n * k) (Vector.ofFnM f) := by
  induction n with
  | zero =>
    rw [Vector.ofFnM_zero, Nat.zero_mul]
    exact hP.pure _
  | succ n ih =>
    rw [Vector.ofFnM_succ, Nat.succ_mul]
    apply hP.bind (ih fun i => hf i.castSucc)
    intro _
    exact hP.bind (hf (Fin.last n)) fun _ => hP.pure _

end Graded

namespace Draw

variable {ε : Type}

/-- A property of draws that `pure` has and that is passed on from step to step. -/
structure Closed (P : {α : Type} → ExceptT ε Draw α → Prop) : Prop where
  pure : ∀ {α : Type} (a : α), P (pure a : ExceptT ε Draw α)
  bind : ∀ {α β : Type} {x : ExceptT ε Draw α} {f : α → ExceptT ε Draw β},
    P x → (∀ a, P (f a)) → P (x >>= f)

/-- Nothing is counted. -/
lemma Closed.graded {P : {α : Type} → ExceptT ε Draw α → Prop} (hP : Closed P) :
    Graded (m := ExceptT ε Draw) fun _ {_} x => P x where
  pure := hP.pure
  bind := hP.bind

end Draw

end SlotMachine
