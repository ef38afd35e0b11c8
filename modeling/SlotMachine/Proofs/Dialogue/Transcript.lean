import Mathlib.Tactic.Common
import SlotMachine.Dialogue

/-!
# Transcripts of dialogues

A transcript tells which calls a dialogue made, in their order, and what was replied to each. The
dialogue itself makes no difference between replies, so it `Yields` a transcript for every way in
which its calls may be answered.
-/

namespace SlotMachine

namespace Dialogue

/-- Calls with their replies, the first one first. -/
abbrev Transcript {Call : Type} (Reply : Call → Type) := List ((c : Call) × Reply c)

variable {Call : Type} {Reply : Call → Type} {α β : Type}

/-- With the replies of the transcript, the dialogue makes just its calls and comes to `a`. -/
inductive Yields : Dialogue Reply α → Transcript Reply → α → Prop
  | done (a : α) : Yields (done a) [] a
  | ask (c : Call) {next : Reply c → Dialogue Reply α} (reply : Reply c) {log : Transcript Reply}
      {a : α} (h : Yields (next reply) log a) : Yields (ask c next) (⟨c, reply⟩ :: log) a

variable {d : Dialogue Reply α} {log : Transcript Reply} {a : α}

lemma yields_done {a₀ : α} : Yields (done a₀ : Dialogue Reply α) log a ↔ log = [] ∧ a = a₀ := by
  constructor
  · rintro ⟨⟩
    exact ⟨rfl, rfl⟩
  · rintro ⟨rfl, rfl⟩
    exact .done a

lemma yields_ask {c : Call} {next : Reply c → Dialogue Reply α} :
    Yields (ask c next) log a ↔
      ∃ reply rest, log = ⟨c, reply⟩ :: rest ∧ Yields (next reply) rest a := by
  constructor
  · rintro (_ | ⟨_, reply, h⟩)
    exact ⟨reply, _, rfl, h⟩
  · rintro ⟨reply, rest, rfl, h⟩
    exact .ask c reply h

lemma Yields.bind {f : α → Dialogue Reply β} {log' : Transcript Reply} {b : β}
    (hd : Yields d log a) (hf : Yields (f a) log' b) : Yields (d.bind f) (log ++ log') b := by
  induction hd with
  | done a => exact hf
  | ask c reply _ ih => exact .ask c reply (ih hf)

/-- The transcript of one dialogue after another comes apart where the first one ends. -/
lemma yields_bind {f : α → Dialogue Reply β} {b : β} :
    Yields (d.bind f) log b ↔
      ∃ a log₁ log₂, log = log₁ ++ log₂ ∧ Yields d log₁ a ∧ Yields (f a) log₂ b := by
  constructor
  · intro h
    induction d generalizing log with
    | done a => exact ⟨a, [], log, rfl, .done a, h⟩
    | ask c next ih =>
      obtain ⟨reply, rest, rfl, h'⟩ := yields_ask.1 h
      obtain ⟨a, log₁, log₂, rfl, hd, hf⟩ := ih reply h'
      exact ⟨a, ⟨c, reply⟩ :: log₁, log₂, rfl, .ask c reply hd, hf⟩
  · rintro ⟨a, log₁, log₂, rfl, hd, hf⟩
    exact hd.bind hf

end Dialogue

end SlotMachine
