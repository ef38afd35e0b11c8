import Mathlib.Tactic.Common
import SlotMachine.Draw
import SlotMachine.Proofs.Checks

/-!
# What draws and spins ensure

A property that the result of a draw has whatever the random words and the cancel flag are, and the
same for the results of those spins that come to an end. Both are passed on step by step along a
`do` block.
-/

namespace SlotMachine

variable {α β : Type}

namespace Draw

/-! ### Draws one after the other -/

lemma pure_apply (a : α) (chance : Chance) (meter : Meter) :
    (pure a : Draw α) chance meter = (a, meter) := rfl

lemma bind_apply (d : Draw α) (f : α → Draw β) (chance : Chance) (meter : Meter) :
    (d >>= f) chance meter = f (d chance meter).1 chance (d chance meter).2 := rfl

/-- A draw that fails ends what is drawn one after the other. -/
lemma except_bind_apply {ε : Type} (x : ExceptT ε Draw α) (f : α → ExceptT ε Draw β)
    (chance : Chance) (meter : Meter) :
    (x >>= f) chance meter =
      match (x chance meter).1 with
      | .ok a => f a chance (x chance meter).2
      | .error e => (.error e, (x chance meter).2) := by
  change ExceptT.bindCont f (x chance meter).1 chance (x chance meter).2 = _
  cases (x chance meter).1 <;> rfl

lemma except_mk_apply {ε : Type} (r : Except ε α) (chance : Chance) (meter : Meter) :
    (ExceptT.mk (pure r) : ExceptT ε Draw α) chance meter = (r, meter) := rfl

lemma except_adapt_apply {ε ε' : Type} (x : ExceptT ε Draw α) (f : ε → ε') (chance : Chance)
    (meter : Meter) :
    x.adapt f chance meter = ((x chance meter).1.mapError f, (x chance meter).2) := rfl

lemma except_bind_eq_ok {ε : Type} {x : ExceptT ε Draw α} {f : α → ExceptT ε Draw β}
    {chance : Chance} {meter : Meter} {b : β} (h : ((x >>= f) chance meter).1 = .ok b) :
    ∃ a, (x chance meter).1 = .ok a ∧ (f a chance (x chance meter).2).1 = .ok b := by
  rw [except_bind_apply] at h
  cases hx : (x chance meter).1 with
  | ok a =>
    rw [hx] at h
    exact ⟨a, rfl, h⟩
  | error e =>
    rw [hx] at h
    cases h

lemma except_mk_eq_ok {ε : Type} {r : Except ε α} {chance : Chance} {meter : Meter} {a : α}
    (h : ((ExceptT.mk (pure r) : ExceptT ε Draw α) chance meter).1 = .ok a) : r = .ok a :=
  h

lemma except_pure_eq_ok {ε : Type} {a b : α} {chance : Chance} {meter : Meter}
    (h : ((pure a : ExceptT ε Draw α) chance meter).1 = .ok b) : b = a :=
  (Except.ok.inj h).symm

lemma except_adapt_eq_ok {ε ε' : Type} {x : ExceptT ε Draw α} {f : ε → ε'} {chance : Chance}
    {meter : Meter} {a : α} (h : (x.adapt f chance meter).1 = .ok a) :
    (x chance meter).1 = .ok a := by
  change (x chance meter).1.mapError f = .ok a at h
  exact mapError_eq_ok h

/-! ### What is ensured -/

/-- Whatever is drawn, the result has the property. -/
def Ensures (d : Draw α) (P : α → Prop) : Prop :=
  ∀ chance meter, P (d chance meter).1

lemma ensures_pure {P : α → Prop} {a : α} (h : P a) : Ensures (pure a) P :=
  fun _ _ => h

lemma Ensures.bind {P : α → Prop} {Q : β → Prop} {d : Draw α} {f : α → Draw β}
    (hd : d.Ensures P) (hf : ∀ a, P a → (f a).Ensures Q) : (d >>= f).Ensures Q :=
  fun chance meter => hf _ (hd chance meter) chance (d chance meter).2

/-- Nothing is known of a result of which nothing is asked. -/
lemma ensures_true (d : Draw α) : d.Ensures fun _ => True :=
  fun _ _ => trivial

end Draw

namespace Spin

/-- Whatever is drawn and seen of the flag, a result that the spin comes to has the property. -/
def Ensures (x : Spin α) (P : α → Prop) : Prop :=
  ∀ chance meter a, (x chance meter).1 = .ok a → P a

lemma ensures_pure {P : α → Prop} {a : α} (h : P a) : Ensures (pure a) P := by
  intro chance meter b hb
  cases hb
  exact h

lemma Ensures.bind {P : α → Prop} {Q : β → Prop} {x : Spin α} {f : α → Spin β}
    (hx : x.Ensures P) (hf : ∀ a, P a → (f a).Ensures Q) : (x >>= f).Ensures Q := by
  intro chance meter b hb
  obtain ⟨a, ha, hb⟩ := Draw.except_bind_eq_ok hb
  exact hf a (hx chance meter a ha) chance _ b hb

lemma ensures_true (x : Spin α) : x.Ensures fun _ => True :=
  fun _ _ _ _ => trivial

/-- A draw that is part of a spin comes to an end. -/
lemma ensures_liftM {P : α → Prop} {d : Draw α} (h : d.Ensures P) :
    Ensures (liftM d : Spin α) P := by
  intro chance meter a ha
  cases ha
  exact h chance meter

end Spin

end SlotMachine
