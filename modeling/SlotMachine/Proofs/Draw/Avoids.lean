import SlotMachine.Proofs.Draw.Ensures
import SlotMachine.Proofs.Draw.Loops

/-!
# Errors that need the flag

`Avoids x e` says that `x` does not fail with the error `e` as long as the cancel flag stays down,
whatever the random words are. Only a look at the flag can end with `cancelled`, so that this passes
from the steps of a `do` block and from the turns of a loop to the whole.
-/

namespace SlotMachine

/-- However much has been drawn and looked at, the flag is down. -/
def Chance.Unraised (chance : Chance) : Prop :=
  ∀ drawn looks, chance.raised drawn looks = false

namespace Draw

variable {ε α β : Type} {e : ε} {x : ExceptT ε Draw α} {f : α → ExceptT ε Draw β}

/-- As long as the flag stays down, `x` does not fail with `e`. -/
def Avoids (x : ExceptT ε Draw α) (e : ε) : Prop :=
  ∀ chance meter, chance.Unraised → (x chance meter).1 ≠ .error e

lemma avoids_pure (a : α) : Avoids (pure a : ExceptT ε Draw α) e := by
  intro chance meter _ h
  cases h

lemma avoids_throw {e' : ε} (h : e' ≠ e) : Avoids (throw e' : ExceptT ε Draw α) e := by
  intro chance meter _ he
  exact h (Except.error.inj he)

/-- A draw by itself does not fail. -/
lemma avoids_liftM (d : Draw α) : Avoids (liftM d : ExceptT ε Draw α) e := by
  intro chance meter _ h
  cases h

lemma Avoids.bind (hx : Avoids x e) (hf : ∀ a, Avoids (f a) e) : Avoids (x >>= f) e := by
  intro chance meter hflag h
  rw [except_bind_apply] at h
  cases hresult : (x chance meter).1 with
  | ok a =>
    rw [hresult] at h
    exact hf a chance (x chance meter).2 hflag h
  | error e' =>
    rw [hresult] at h
    obtain rfl : e' = e := Except.error.inj h
    exact hx chance meter hflag hresult

/-- An error that is told in another way must itself be avoided. -/
lemma avoids_adapt {ε' : Type} {g : ε → ε'} {e' : ε'} (hx : ∀ e, g e = e' → Avoids x e) :
    Avoids (x.adapt g) e' := by
  intro chance meter hflag h
  change (x chance meter).1.mapError g = .error e' at h
  cases hresult : (x chance meter).1 with
  | ok a =>
    rw [hresult] at h
    cases h
  | error e =>
    rw [hresult] at h
    exact hx e (Except.error.inj h) chance meter hflag hresult

lemma avoids_closed (e : ε) : Closed fun x : ExceptT ε Draw _ => Avoids x e where
  pure a := avoids_pure a
  bind hx hf := hx.bind hf

end Draw

namespace Spin

/-- A look at the flag only ends the spin when the flag is up. -/
lemma checkpoint_avoids : Draw.Avoids checkpoint .cancelled := by
  intro chance meter hflag h
  simp only [checkpoint, hflag meter.drawn meter.looks] at h
  cases h

lemma reserve_avoids (length : Nat) : Draw.Avoids (reserve length) .cancelled := by
  unfold reserve
  split
  case isTrue => exact Draw.avoids_pure ()
  case isFalse => exact Draw.avoids_throw (by decide)

end Spin

end SlotMachine
