import Mathlib.Tactic.Common
import SlotMachine.Dialogue

/-!
# What a dialogue asks at all

A dialogue may make different calls after different replies. `Only` says of all of them, whatever is
replied, that they have a property: what none of these calls changes is then not changed by the
dialogue.
-/

namespace SlotMachine

namespace Dialogue

variable {Call : Type} {Reply : Call → Type} {α β σ : Type} {p : Call → Prop}

/-- All calls that the dialogue may make have the property. -/
def Only (p : Call → Prop) : Dialogue Reply α → Prop
  | done _ => True
  | ask c next => p c ∧ ∀ reply, (next reply).Only p

/-- What no call with the property changes stays as it is. -/
lemma Only.view_eq (view : σ → β) {answer : (c : Call) → StateM σ (Reply c)}
    {d : Dialogue Reply α} (hd : d.Only p)
    (hview : ∀ c s, p c → view (answer c s).2 = view s) (s : σ) :
    view (d.run answer s).2 = view s := by
  induction d generalizing s with
  | done a => rfl
  | ask c next ih =>
    have hrest : view ((next (answer c s).1).run answer (answer c s).2).2 = view (answer c s).2 :=
      ih _ (hd.2 _) _
    exact hrest.trans (hview c s hd.1)

end Dialogue

end SlotMachine
