import Mathlib.Logic.Function.Basic
import SlotMachine.Proofs.Dialogue.Answered

/-!
# Clients that take turns

Any number of clients may hold their dialogues at the same time with one who answers. Every call is
answered at once, as a whole, and a schedule says whose turn it is to make the next call. All
interleavings of the clients' calls come about by some schedule.

Whatever the schedule is, what is said is a transcript of calls that are answered one after the
other (`answered_turns`).
-/

namespace SlotMachine

namespace Dialogue

variable {Call : Type} {Reply : Call → Type} {ι σ : Type} {α : ι → Type} [DecidableEq ι]

/-- What is said, and the state that is left, when the clients make their calls in the turns of the
schedule. A client who has nothing more to say lets his turn pass. -/
def turns (answer : (c : Call) → StateM σ (Reply c)) :
    List ι → ((i : ι) → Dialogue Reply (α i)) → σ → Transcript Reply × σ
  | [], _, s => ([], s)
  | i :: rest, clients, s =>
    match clients i with
    | done _ => turns answer rest clients s
    | ask c next =>
      let (reply, s') := answer c s
      let (log, s'') := turns answer rest (Function.update clients i (next reply)) s'
      (⟨c, reply⟩ :: log, s'')

variable {answer : (c : Call) → StateM σ (Reply c)}

lemma answered_turns (schedule : List ι) (clients : (i : ι) → Dialogue Reply (α i)) (s : σ) :
    Answered answer s (turns answer schedule clients s).1 (turns answer schedule clients s).2 := by
  induction schedule generalizing clients s with
  | nil => exact .nil s
  | cons i rest ih =>
    simp only [turns]
    cases clients i with
    | done _ => exact ih clients s
    | ask c next => exact .cons c s (ih _ _)

end Dialogue

end SlotMachine
