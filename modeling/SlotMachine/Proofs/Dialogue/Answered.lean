import SlotMachine.Proofs.Dialogue.Transcript

/-!
# Dialogues that are carried out

Whoever answers the calls of a dialogue may keep a state, which any call may change. `transcript`
tells what is said when the dialogue is carried out, and `Answered` says of a transcript alone that
its replies are those answers, one after the other: what holds of all transcripts of a dialogue can
so be combined with what each answer does to the state.
-/

namespace SlotMachine

namespace Dialogue

variable {Call : Type} {Reply : Call → Type} {α σ : Type}

/-- What is said when a dialogue is carried out from the state `s` on. -/
def transcript (answer : (c : Call) → StateM σ (Reply c)) : Dialogue Reply α → σ → Transcript Reply
  | done _, _ => []
  | ask c next, s => ⟨c, (answer c s).1⟩ :: (next (answer c s).1).transcript answer (answer c s).2

lemma run_done {answer : (c : Call) → StateM σ (Reply c)} (a : α) (s : σ) :
    (done a : Dialogue Reply α).run answer s = (a, s) := rfl

lemma run_ask {answer : (c : Call) → StateM σ (Reply c)} (c : Call)
    (next : Reply c → Dialogue Reply α) (s : σ) :
    (ask c next).run answer s = (next (answer c s).1).run answer (answer c s).2 := rfl

lemma run_bind {β : Type} {answer : (c : Call) → StateM σ (Reply c)} (d : Dialogue Reply α)
    (f : α → Dialogue Reply β) (s : σ) :
    (d.bind f).run answer s = (f (d.run answer s).1).run answer (d.run answer s).2 := by
  induction d generalizing s with
  | done a => rfl
  | ask c next ih => exact ih (answer c s).1 (answer c s).2

lemma transcript_bind {β : Type} {answer : (c : Call) → StateM σ (Reply c)}
    (d : Dialogue Reply α) (f : α → Dialogue Reply β) (s : σ) :
    (d.bind f).transcript answer s = d.transcript answer s ++
      (f (d.run answer s).1).transcript answer (d.run answer s).2 := by
  induction d generalizing s with
  | done a => rfl
  | ask c next ih => exact congrArg (⟨c, (answer c s).1⟩ :: ·) (ih (answer c s).1 (answer c s).2)

/-- From the state `s` on, the replies of the transcript are the answers to its calls, which leave
the state `s'`. -/
inductive Answered (answer : (c : Call) → StateM σ (Reply c)) : σ → Transcript Reply → σ → Prop
  | nil (s : σ) : Answered answer s [] s
  | cons (c : Call) (s : σ) {log : Transcript Reply} {s' : σ}
      (h : Answered answer (answer c s).2 log s') :
      Answered answer s (⟨c, (answer c s).1⟩ :: log) s'

variable {answer : (c : Call) → StateM σ (Reply c)} {log : Transcript Reply} {s s' : σ}

lemma answered_nil : Answered answer s [] s' ↔ s' = s := by
  constructor
  · rintro ⟨⟩
    rfl
  · rintro rfl
    exact .nil s'

lemma answered_cons {c : Call} {reply : Reply c} :
    Answered answer s (⟨c, reply⟩ :: log) s' ↔
      reply = (answer c s).1 ∧ Answered answer (answer c s).2 log s' := by
  constructor
  · rintro (_ | ⟨_, _, h⟩)
    exact ⟨rfl, h⟩
  · rintro ⟨rfl, h⟩
    exact .cons c s h

lemma answered_append {log' : Transcript Reply} :
    Answered answer s (log ++ log') s' ↔
      ∃ t, Answered answer s log t ∧ Answered answer t log' s' := by
  induction log generalizing s with
  | nil => simp [answered_nil]
  | cons entry log ih =>
    obtain ⟨c, reply⟩ := entry
    simp only [List.cons_append, answered_cons, ih]
    constructor
    · rintro ⟨hreply, t, hlog, hlog'⟩
      exact ⟨t, ⟨hreply, hlog⟩, hlog'⟩
    · rintro ⟨t, ⟨hreply, hlog⟩, hlog'⟩
      exact ⟨hreply, t, hlog, hlog'⟩

/-- What no answer changes stays as it is. -/
lemma Answered.view_eq {β : Type} {view : σ → β} (h : Answered answer s log s')
    (hview : ∀ c s, (⟨c, (answer c s).1⟩ : (c : Call) × Reply c) ∈ log →
      view (answer c s).2 = view s) : view s' = view s := by
  induction h with
  | nil s => rfl
  | cons c s _ ih =>
    rw [ih fun c' s' hmem => hview c' s' (List.mem_cons_of_mem _ hmem)]
    exact hview c s List.mem_cons_self

lemma yields_transcript (d : Dialogue Reply α) (s : σ) :
    Yields d (d.transcript answer s) (d.run answer s).1 := by
  induction d generalizing s with
  | done a => exact .done a
  | ask c next ih => exact .ask c _ (ih _ _)

lemma answered_transcript (d : Dialogue Reply α) (s : σ) :
    Answered answer s (d.transcript answer s) (d.run answer s).2 := by
  induction d generalizing s with
  | done a => exact .nil s
  | ask c next ih => exact .cons c s (ih _ _)

/-- The answers leave a dialogue no choice. -/
lemma Yields.eq_of_answered {d : Dialogue Reply α} {a : α} (h : Yields d log a)
    (hanswered : Answered answer s log s') :
    log = d.transcript answer s ∧ a = (d.run answer s).1 ∧ s' = (d.run answer s).2 := by
  induction h generalizing s with
  | done a => exact ⟨rfl, rfl, answered_nil.1 hanswered⟩
  | ask c reply _ ih =>
    obtain ⟨rfl, hrest⟩ := answered_cons.1 hanswered
    obtain ⟨hlog, ha, hs'⟩ := ih hrest
    exact ⟨congrArg (⟨c, (answer c s).1⟩ :: ·) hlog, ha, hs'⟩

end Dialogue

end SlotMachine
