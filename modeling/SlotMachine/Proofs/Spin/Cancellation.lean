import SlotMachine.Proofs.Draw.Avoids
import SlotMachine.Proofs.Spin.Steps
import SlotMachine.Round

/-!
# Spins are cancelled by the flag alone

As long as the flag stays down no spin is cancelled, and so no round either.
-/

namespace SlotMachine

open Draw (Avoids avoids_closed avoids_pure avoids_liftM)
open Spin (checkpoint_avoids)

lemma Primes.upward_avoids (floor count : UInt64) : Avoids (upward floor count) .cancelled :=
  (Spin.reserve_avoids _).bind fun _ => search_closed (avoids_closed _) checkpoint_avoids _ _ _

lemma Matrix.burn_avoids (size rounds : Nat) : Avoids (burn size rounds) .cancelled := by
  unfold burn
  split
  case isTrue => exact avoids_pure ()
  case isFalse =>
    apply (Spin.reserve_avoids _).bind
    intro _
    apply (avoids_liftM (random size)).bind
    intro a
    apply (avoids_liftM (random size)).bind
    intro b
    have hproducts : Avoids (rounds.foldM (fun _ _ a => product a b) a) .cancelled :=
      products_graded (avoids_closed _).graded checkpoint_avoids rounds a b
    exact hproducts.bind fun _ => avoids_pure _

namespace Engine

variable (e : Engine)

lemma heavyDraft_avoids : Avoids e.heavyDraft .cancelled := by
  apply (Primes.upward_avoids _ _).bind
  intro primes
  apply (Matrix.burn_avoids _ _).bind
  intro _
  exact e.draftOf_closed (avoids_closed _) checkpoint_avoids primes

lemma spinHeavy_avoids : Avoids e.spinHeavy .cancelled := by
  rw [spinHeavy_eq]
  apply e.heavyDraft_avoids.bind
  intro draft
  exact e.finish_closed (avoids_closed _) avoids_liftM draft

lemma spin_avoids (strategy : Strategy) : Avoids (e.spin strategy) .cancelled := by
  unfold spin
  cases e.resolve strategy with
  | normal => exact avoids_liftM e.spinNormal
  | heavy => exact e.spinHeavy_avoids

lemma playRound_avoids (request : SpinRequest) (now : Instant) :
    Avoids (e.playRound request now) (.interrupted .cancelled) := by
  -- the request and the payout are refused, if at all, and never interrupted
  have hrefused : ∀ {α : Type} (r : Except RequestError α),
      Avoids (ExceptT.mk (pure (r.mapError .refused)) : ExceptT PlayError Draw α)
        (.interrupted .cancelled) := by
    intro α r chance meter _ h
    cases r with
    | ok a => cases h
    | error reason => cases h
  unfold playRound
  apply (hrefused request.check).bind
  rintro ⟨userId, bet⟩
  have hspin : ∀ reason, PlayError.interrupted reason = .interrupted .cancelled →
      Avoids (e.spin request.strategy) reason := by
    rintro _ ⟨⟩
    exact e.spin_avoids request.strategy
  apply (Draw.avoids_adapt hspin).bind
  intro outcome
  apply (hrefused (Payout.ofBet bet outcome)).bind
  intro payout
  exact avoids_pure _

end Engine

end SlotMachine
