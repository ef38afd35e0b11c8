/-!
# Dialogues

A dialogue says what is asked, one call after the other, and how it goes on after each reply,
whatever the reply is. It does nothing by itself: `run` carries it out with a way of answering
calls.
-/

namespace SlotMachine

/-- A dialogue of calls to each of which there is a type of replies. -/
inductive Dialogue {Call : Type} (Reply : Call → Type) (α : Type)
  | done (a : α)
  | ask (call : Call) (next : Reply call → Dialogue Reply α)

namespace Dialogue

variable {Call : Type} {Reply : Call → Type} {α β : Type}

def bind : Dialogue Reply α → (α → Dialogue Reply β) → Dialogue Reply β
  | done a, f => f a
  | ask call next, f => ask call fun reply => (next reply).bind f

instance : Monad (Dialogue Reply) where
  pure := done
  bind := bind

/-- Asks one call. -/
def call (c : Call) : Dialogue Reply (Reply c) := ask c done

/-- Carries a dialogue out. -/
def run {m : Type → Type} [Monad m] (answer : (c : Call) → m (Reply c)) : Dialogue Reply α → m α
  | done a => pure a
  | ask c next => answer c >>= fun reply => (next reply).run answer

@[simp] theorem done_bind (a : α) (f : α → Dialogue Reply β) : (done a).bind f = f a := rfl

theorem bind_assoc {γ : Type} (d : Dialogue Reply α) (f : α → Dialogue Reply β)
    (g : β → Dialogue Reply γ) : (d.bind f).bind g = d.bind fun a => (f a).bind g := by
  induction d with
  | done a => rfl
  | ask c next ih => simp [bind, ih]

end Dialogue

end SlotMachine
