import Mathlib.Tactic.Common
import SlotMachine.Dialogue

/-!
# Interleaved dialogues

Two dialogues may be held at the same time with one who answers, one call after the other, whose
answers change a common state. Every call is answered at once, and before each it is open which of
the two dialogues goes on.

The inversion lemmas `interleaves_done_done`, `interleaves_done_right` and `interleaves_iff` tell
the next steps of a pair of dialogues, so that the ends of a given pair can be worked out call by
call.
-/

namespace SlotMachine

namespace Dialogue

variable {Call : Type} {Reply : Call → Type} {α β σ : Type}

/-- From the state `s` the dialogues may come to the results `a` and `b` and the state `s'`. -/
inductive Interleaves (answer : (c : Call) → StateM σ (Reply c)) :
    Dialogue Reply α → Dialogue Reply β → σ → α → β → σ → Prop
  | done (a : α) (b : β) (s : σ) : Interleaves answer (done a) (done b) s a b s
  | left {c : Call} {next : Reply c → Dialogue Reply α} {e : Dialogue Reply β} {s s' : σ} {a : α}
      {b : β} (h : Interleaves answer (next (answer c s).1) e (answer c s).2 a b s') :
      Interleaves answer (ask c next) e s a b s'
  | right {c : Call} {d : Dialogue Reply α} {next : Reply c → Dialogue Reply β} {s s' : σ} {a : α}
      {b : β} (h : Interleaves answer d (next (answer c s).1) (answer c s).2 a b s') :
      Interleaves answer d (ask c next) s a b s'

variable {answer : (c : Call) → StateM σ (Reply c)} {d : Dialogue Reply α} {e : Dialogue Reply β}
  {s s' : σ} {a : α} {b : β}

namespace Interleaves

lemma swap (h : Interleaves answer d e s a b s') : Interleaves answer e d s b a s' := by
  induction h with
  | done a b s => exact .done b a s
  | left _ ih => exact .right ih
  | right _ ih => exact .left ih

end Interleaves

lemma interleaves_swap : Interleaves answer d e s a b s' ↔ Interleaves answer e d s b a s' :=
  ⟨.swap, .swap⟩

/-! ### The next steps of a pair -/

/-- A dialogue that waits in the state `s` goes on as `d'` in the state `s'` after its next call. -/
inductive Goes (answer : (c : Call) → StateM σ (Reply c)) :
    Dialogue Reply α → σ → Dialogue Reply α → σ → Prop
  | ask (c : Call) (next : Reply c → Dialogue Reply α) (s : σ) :
      Goes answer (ask c next) s (next (answer c s).1) (answer c s).2

lemma Goes.of_eq {c : Call} {next : Reply c → Dialogue Reply α} {d' : Dialogue Reply α}
    {reply : Reply c} (hreply : answer c s = (reply, s')) (hnext : next reply = d') :
    Goes answer (.ask c next) s d' s' := by
  have h := @Goes.ask _ _ _ _ answer c next s
  rwa [hreply, hnext] at h

lemma Goes.run_eq {d d' : Dialogue Reply α} (h : Goes answer d s d' s') :
    d.run answer s = d'.run answer s' := by
  cases h with
  | ask c next s => rfl

lemma interleaves_done_done {a₀ : α} {b₀ : β} :
    Interleaves answer (done a₀) (done b₀) s a b s' ↔ a = a₀ ∧ b = b₀ ∧ s' = s := by
  constructor
  · rintro ⟨⟩
    exact ⟨rfl, rfl, rfl⟩
  · rintro ⟨rfl, rfl, rfl⟩
    exact .done a b s'

lemma interleaves_done_right {d' : Dialogue Reply α} {s₁ : σ} {b₀ : β}
    (h : Goes answer d s d' s₁) :
    Interleaves answer d (done b₀) s a b s' ↔ Interleaves answer d' (done b₀) s₁ a b s' := by
  obtain ⟨c, next, s⟩ := h
  constructor
  · rintro (_ | h)
    exact h
  · exact .left

/-- One of the two dialogues makes the next call. -/
lemma interleaves_iff {d' : Dialogue Reply α} {e' : Dialogue Reply β} {s₁ s₂ : σ}
    (hd : Goes answer d s d' s₁) (he : Goes answer e s e' s₂) :
    Interleaves answer d e s a b s' ↔
      Interleaves answer d' e s₁ a b s' ∨ Interleaves answer d e' s₂ a b s' := by
  obtain ⟨c, next, s⟩ := hd
  obtain ⟨c', next'⟩ := he
  constructor
  · rintro (_ | h | h)
    · exact Or.inl h
    · exact Or.inr h
  · rintro (h | h)
    · exact .left h
    · exact .right h

/-- A call that changes no state, and after which the dialogue goes on as `d'` in every state that
can be reached, might as well be made at once. -/
lemma interleaves_pending {Reached : σ → Prop} {d' : Dialogue Reply α}
    (hreached : ∀ c s, Reached s → Reached (answer c s).2)
    (hgoes : ∀ s, Reached s → Goes answer d s d' s) (hs : Reached s) :
    Interleaves answer d e s a b s' ↔ Interleaves answer d' e s a b s' := by
  -- By induction on the other dialogue, which may go on for a while before the call is made.
  induction e generalizing s with
  | done b₀ => exact interleaves_done_right (hgoes s hs)
  | ask c next ih =>
    rw [interleaves_iff (hgoes s hs) (.ask c next s)]
    constructor
    · rintro (h | h)
      · exact h
      · exact .right ((ih _ (hreached c s hs)).1 h)
    · exact Or.inl

end Dialogue

end SlotMachine
