import SlotMachine.Proofs.Dialogue.Transcript
import SlotMachine.Service

/-!
# What is said in an exchange

`Speaks` gives all transcripts of an exchange with their results, whatever is recorded meanwhile. It
is put together along a `do` block from steps that are `Silent` and steps that make one call
(`Asks`).
-/

namespace SlotMachine

open Dialogue (Transcript)

variable {α β : Type}

namespace Exchange

/-- Whatever has been recorded before, the exchange may have just those transcripts and results that
are admitted. -/
def Speaks (x : Exchange α) (Admitted : Transcript Call.Reply → α → Prop) : Prop :=
  ∀ recorder log a, (∃ recorder', (x recorder).Yields log (a, recorder')) ↔ Admitted log a

/-- The exchange makes no call and comes to `a`. -/
def Silent (x : Exchange α) (a : α) : Prop :=
  x.Speaks fun log a' => log = [] ∧ a' = a

/-- The exchange makes the one call `c` and comes to what `f` makes of the reply. -/
def Asks (x : Exchange α) (c : Call) (f : c.Reply → α) : Prop :=
  x.Speaks fun log a => ∃ reply, log = [⟨c, reply⟩] ∧ a = f reply

variable {T T' : Transcript Call.Reply → α → Prop} {x : Exchange α} {f : α → Exchange β}

lemma Speaks.congr (hx : x.Speaks T) (h : ∀ log a, T log a ↔ T' log a) : x.Speaks T' :=
  fun recorder log a => (hx recorder log a).trans (h log a)

lemma Speaks.bind {U : α → Transcript Call.Reply → β → Prop} (hx : x.Speaks T)
    (hf : ∀ log a, T log a → (f a).Speaks (U a)) :
    (x >>= f).Speaks fun log b => ∃ a log₁ log₂, log = log₁ ++ log₂ ∧ T log₁ a ∧ U a log₂ b := by
  intro recorder log b
  constructor
  · rintro ⟨recorder₂, h⟩
    obtain ⟨⟨a, recorder₁⟩, log₁, log₂, rfl, h₁, h₂⟩ := Dialogue.yields_bind.1 h
    have hT := (hx recorder log₁ a).1 ⟨recorder₁, h₁⟩
    exact ⟨a, log₁, log₂, rfl, hT, (hf log₁ a hT recorder₁ log₂ b).1 ⟨recorder₂, h₂⟩⟩
  · rintro ⟨a, log₁, log₂, rfl, hT, hU⟩
    obtain ⟨recorder₁, h₁⟩ := (hx recorder log₁ a).2 hT
    obtain ⟨recorder₂, h₂⟩ := (hf log₁ a hT recorder₁ log₂ b).2 hU
    exact ⟨recorder₂, h₁.bind h₂⟩

lemma Speaks.bind_silent {g : α → β} (hx : x.Speaks T) (hf : ∀ a, (f a).Silent (g a)) :
    (x >>= f).Speaks fun log b => ∃ a, T log a ∧ b = g a := by
  refine (hx.bind fun _ a _ => hf a).congr fun log b => ?_
  constructor
  · rintro ⟨a, log, _, rfl, hT, rfl, rfl⟩
    rw [List.append_nil]
    exact ⟨a, hT, rfl⟩
  · rintro ⟨a, hT, rfl⟩
    exact ⟨a, log, [], (List.append_nil log).symm, hT, rfl, rfl⟩

lemma silent_pure (a : α) : Silent (pure a) a := by
  intro recorder log b
  constructor
  · rintro ⟨recorder', h⟩
    obtain ⟨hlog, hb⟩ := Dialogue.yields_done.1 h
    exact ⟨hlog, congrArg Prod.fst hb⟩
  · rintro ⟨rfl, rfl⟩
    exact ⟨recorder, .done _⟩

lemma silent_modify (g : Recorder → Recorder) : Silent (modify g) () := by
  intro recorder log b
  constructor
  · rintro ⟨recorder', h⟩
    exact ⟨(Dialogue.yields_done.1 h).1, rfl⟩
  · rintro ⟨rfl, -⟩
    exact ⟨g recorder, .done _⟩

lemma asks_ask (c : Call) : Asks (ask c) c fun reply => reply := by
  intro recorder log reply
  constructor
  · rintro ⟨recorder', h⟩
    obtain ⟨reply', rest, rfl, h'⟩ := Dialogue.yields_ask.1 h
    obtain ⟨rfl, hreply⟩ := Dialogue.yields_done.1 h'
    exact ⟨reply', rfl, congrArg Prod.fst hreply⟩
  · rintro ⟨reply, rfl, rfl⟩
    exact ⟨recorder, .ask c reply (.done _)⟩

lemma Silent.bind {U : Transcript Call.Reply → β → Prop} {a : α} (hx : x.Silent a)
    (hf : (f a).Speaks U) : (x >>= f).Speaks U := by
  have h : ∀ log a', (log = ([] : Transcript Call.Reply) ∧ a' = a) → (f a').Speaks U := by
    rintro log a' ⟨-, rfl⟩
    exact hf
  refine (Speaks.bind hx h).congr fun log b => ?_
  constructor
  · rintro ⟨_, _, rest, rfl, ⟨rfl, rfl⟩, hU⟩
    exact hU
  · intro hU
    exact ⟨a, [], log, rfl, ⟨rfl, rfl⟩, hU⟩

lemma Asks.bind {c : Call} {g : c.Reply → α} {U : c.Reply → Transcript Call.Reply → β → Prop}
    (hx : x.Asks c g) (hf : ∀ reply, (f (g reply)).Speaks (U reply)) :
    (x >>= f).Speaks fun log b => ∃ reply rest, log = ⟨c, reply⟩ :: rest ∧ U reply rest b := by
  intro recorder log b
  constructor
  · rintro ⟨recorder₂, h⟩
    obtain ⟨⟨a, recorder₁⟩, log₁, log₂, rfl, h₁, h₂⟩ := Dialogue.yields_bind.1 h
    obtain ⟨reply, rfl, rfl⟩ := (hx recorder log₁ a).1 ⟨recorder₁, h₁⟩
    exact ⟨reply, log₂, rfl, (hf reply recorder₁ log₂ b).1 ⟨recorder₂, h₂⟩⟩
  · rintro ⟨reply, rest, rfl, h⟩
    obtain ⟨recorder₁, h₁⟩ := (hx recorder [⟨c, reply⟩] (g reply)).2 ⟨reply, rfl, rfl⟩
    obtain ⟨recorder₂, h₂⟩ := (hf reply recorder₁ rest b).2 h
    exact ⟨recorder₂, h₁.bind h₂⟩

/-- A call whose reply is dealt with in silence. -/
lemma asks_of_silent {c : Call} {f : c.Reply → Exchange β} {g : c.Reply → β}
    (hf : ∀ reply, (f reply).Silent (g reply)) : (ask c >>= f).Asks c g := by
  refine (Speaks.bind_silent (asks_ask c) hf).congr fun log b => ?_
  constructor
  · rintro ⟨reply, ⟨_, rfl, rfl⟩, rfl⟩
    exact ⟨reply, rfl, rfl⟩
  · rintro ⟨reply, rfl, rfl⟩
    exact ⟨reply, ⟨reply, rfl, rfl⟩, rfl⟩

end Exchange

end SlotMachine
