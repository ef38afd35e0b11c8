import SlotMachine.Proofs.Draw.Below
import SlotMachine.Proofs.Spin.Course

/-!
# Heavy spins keep their random words to themselves

A heavy spin fills its matrices with random words, but nothing of them is left in its outcome. Two
spins of one engine, whatever their words are, agree in everything but perhaps in the middle reel,
and in that only where three of a kind were broken up, for which one more symbol is drawn.

What a spin comes to before that is the draft of its outcome, and its course takes no words but for
the matrices, which give nothing.
-/

namespace SlotMachine

/-! ### Drafts -/

namespace Engine

variable {e : Engine}

/-- The draft does not depend on the words. -/
lemma exists_draft (hprimes : e.heavy.PrimesFit) (hmatrices : e.heavy.MatricesFit) :
    ∃ draft, e.heavyDraft.EndsIn e.burntWords (· = draft) := by
  obtain ⟨draft, hdraft⟩ := heavyDraft_follows hprimes hmatrices
  exact ⟨draft, hdraft.endsIn fun meter => e.drawn_after_course draft meter⟩

end Engine

/-! ### Ties -/

lemma SymbolTable.length_others_le (t : SymbolTable) (s : Symbol) :
    (t.others s).length ≤ 2 ^ 32 := by
  have hsymbols : t.symbols.length ≤ Symbol.all.length :=
    (List.subperm_of_subset t.nodup fun s _ => Symbol.mem_all s).length_le
  exact ((List.length_filter_le _ _).trans hsymbols).trans (by decide)

namespace Engine

variable (e : Engine)

/-- How many words it takes to break up these reels, if they are three of a kind. The half word `a`
is the first. -/
def tieWords (reels : Reels) (a : UInt32) : Nat :=
  if reels.allEqual then Draw.wordsBelow (e.table.others reels.first).length a else 0

lemma breakTie_apply (reels : Reels) (chance : Chance) (meter : Meter) :
    ∃ second, (e.breakTie reels chance meter).1 = { reels with second } ∧
      (reels.allEqual = false → second = reels.second) ∧
      (e.breakTie reels chance meter).2 =
        { meter with drawn := meter.drawn + e.tieWords reels (chance.half meter.drawn) } := by
  unfold breakTie tieWords
  cases hreels : reels.allEqual with
  | false => exact ⟨reels.second, rfl, fun _ => rfl, rfl⟩
  | true =>
    obtain ⟨-, hwords⟩ := Draw.below_apply
      (List.length_pos_iff.2 (e.table.others_ne_nil reels.first))
      (e.table.length_others_le reels.first) chance meter
    exact ⟨_, rfl, nofun, hwords⟩

end Engine

namespace Outcome

/-- An outcome is what its draft says, except that three of a kind have been broken up if they are
lost. -/
inductive Finishes (draft : Outcome) : Outcome → Prop
  | won (h : draft.win = true) : Finishes draft draft
  | lost (h : draft.win = false) (second : Symbol)
      (hsecond : draft.reels.allEqual = false → second = draft.reels.second) :
      Finishes draft (losing { draft.reels with second })

/-- Two outcomes agree but perhaps for the middle reel, where three of a kind of their draft have
been broken up. -/
structure Agrees (draft o o' : Outcome) : Prop where
  win : o.win = o'.win
  multiplier : o.multiplier = o'.multiplier
  first : o.reels.first = o'.reels.first
  third : o.reels.third = o'.reels.third
  second : o.reels.second = o'.reels.second ∨
    o.win = false ∧ o.reels.first = o.reels.third ∧ draft.reels.second = o.reels.first

lemma Finishes.agrees {draft o o' : Outcome} (h : Finishes draft o) (h' : Finishes draft o') :
    Agrees draft o o' := by
  cases h with
  | won h =>
    cases h' with
    | won _ => exact ⟨rfl, rfl, rfl, rfl, .inl rfl⟩
    | lost hlost => cases h.symm.trans hlost
  | lost h second hsecond =>
    cases h' with
    | won hwon => cases hwon.symm.trans h
    | lost _ second' hsecond' =>
      refine ⟨rfl, rfl, rfl, rfl, ?_⟩
      cases hreels : draft.reels.allEqual with
      | false => exact .inl ((hsecond hreels).trans (hsecond' hreels).symm)
      | true =>
        obtain ⟨hfirst, hthird⟩ := draft.reels.allEqual_iff.1 hreels
        exact .inr ⟨rfl, hfirst.trans hthird, hfirst.symm⟩

end Outcome

namespace Engine

variable (e : Engine)

/-- How many words it takes to finish a draft, of which the half word `a` is the first. -/
def finishWords (draft : Outcome) (a : UInt32) : Nat :=
  if draft.win then 0 else e.tieWords draft.reels a

lemma finish_apply (draft : Outcome) (chance : Chance) (meter : Meter) :
    ∃ o, (e.finish draft chance meter).1 = .ok o ∧ draft.Finishes o ∧
      (e.finish draft chance meter).2.drawn =
        meter.drawn + e.finishWords draft (chance.half meter.drawn) := by
  unfold finish finishWords
  cases hwin : draft.win with
  | true => exact ⟨draft, rfl, .won hwin, rfl⟩
  | false =>
    obtain ⟨second, hreels, hsecond, hmeter⟩ := e.breakTie_apply draft.reels chance meter
    refine ⟨_, ?_, .lost hwin second hsecond, congrArg Meter.drawn hmeter⟩
    rw [← hreels]
    rfl

/-- What comes of a heavy spin with matrices that fit: it finishes its draft. -/
lemma spinHeavy_finishes {draft : Outcome} (hdraft : e.heavyDraft.EndsIn e.burntWords (· = draft))
    {chance : Chance} (hflag : chance.Unraised) (meter : Meter) :
    ∃ o, (e.spinHeavy chance meter).1 = .ok o ∧ draft.Finishes o ∧
      (e.spinHeavy chance meter).2.drawn = meter.drawn + e.burntWords +
        e.finishWords draft (chance.half (meter.drawn + e.burntWords)) := by
  obtain ⟨_, hresult, rfl, hwords⟩ := hdraft chance meter hflag
  rw [spinHeavy_eq, Draw.except_bind_apply, hresult, ← hwords]
  exact e.finish_apply _ chance (e.heavyDraft chance meter).2

lemma spinHeavy_oversized (hprimes : e.heavy.PrimesFit) (hmatrices : ¬e.heavy.MatricesFit)
    {chance : Chance} (hflag : chance.Unraised) (meter : Meter) :
    (e.spinHeavy chance meter).1 = .error .oversized := by
  obtain ⟨primes, -, hsearch⟩ := Primes.upward_finds e.heavy.primeFloor hprimes
  obtain ⟨found, hrun, -⟩ := hsearch.of_unraised hflag meter
  exact e.spinHeavy_eq_oversized_iff.2 (.inr ⟨found, congrArg Prod.fst hrun, hmatrices⟩)

/-- Two heavy spins of one engine, whatever words they are given, have outcomes that agree but
perhaps for the middle reel, where the draft of both is lost with three of a kind. Besides the words
for the matrices, and those for another symbol where three of a kind are broken up, no words are
taken. All this is so if the primes and the matrices fit in lists. Where only the matrices do not,
there is no outcome, although their settings may well be within the range of words. -/
theorem spinHeavy_agrees (hprimes : e.heavy.PrimesFit) :
    (e.heavy.MatricesFit → ∃ draft : Outcome,
      (∀ chance meter, chance.Unraised → (e.heavyDraft chance meter).1 = .ok draft ∧
        (e.spinHeavy chance meter).2.drawn = meter.drawn + e.burntWords +
          e.finishWords draft (chance.half (meter.drawn + e.burntWords))) ∧
      ∀ chance chance' meter meter', chance.Unraised → chance'.Unraised → ∃ o o',
        (e.spinHeavy chance meter).1 = .ok o ∧ (e.spinHeavy chance' meter').1 = .ok o' ∧
        draft.Agrees o o') ∧
    (¬e.heavy.MatricesFit → ∀ chance meter, chance.Unraised →
      (e.spinHeavy chance meter).1 = .error .oversized) := by
  constructor
  · intro hmatrices
    obtain ⟨draft, hdraft⟩ := exists_draft hprimes hmatrices
    refine ⟨draft, ?_, ?_⟩
    · intro chance meter hflag
      obtain ⟨_, hresult, rfl, -⟩ := hdraft chance meter hflag
      obtain ⟨-, -, -, hwords⟩ := e.spinHeavy_finishes hdraft hflag meter
      exact ⟨hresult, hwords⟩
    · intro chance chance' meter meter' hflag hflag'
      obtain ⟨o, hresult, ho, -⟩ := e.spinHeavy_finishes hdraft hflag meter
      obtain ⟨o', hresult', ho', -⟩ := e.spinHeavy_finishes hdraft hflag' meter'
      exact ⟨o, o', hresult, hresult', ho.agrees ho'⟩
  · intro hmatrices chance meter hflag
    exact e.spinHeavy_oversized hprimes hmatrices hflag meter

/-- Matrices of a thousand million rows have no more entries than there are words, but more than a
list can have. -/
theorem spinHeavy_oversized_wide :
    ∃ e, (ofTable .reference 0.3).bind (·.withHeavy (idleSettings 3 0x40000000)) = .ok e ∧
      e.heavy.PrimesFit ∧ e.heavy.matrixSize.toNat ^ 2 < UInt64.size ∧
      ∀ chance meter, chance.Unraised → (e.spinHeavy chance meter).1 = .error .oversized := by
  have hprimes : (idleSettings 3 0x40000000).PrimesFit := by
    show (3 : UInt64).toNat < Spin.maxLength
    decide
  have hmatrices : ¬(idleSettings 3 0x40000000).MatricesFit := by
    intro h
    have hfits : (0x40000000 : UInt64).toNat * (0x40000000 : UInt64).toNat < Spin.maxLength :=
      h (by decide)
    exact absurd hfits (by decide)
  refine ⟨_, rfl, hprimes, ?_, fun chance meter hflag => ?_⟩
  · show (0x40000000 : UInt64).toNat ^ 2 < UInt64.size
    decide
  · exact spinHeavy_oversized _ hprimes hmatrices hflag meter

/-- Two spins with matrices of two rows, on words of zeros and on words of ones. -/
theorem spinHeavy_agrees_idle :
    idle.heavy.PrimesFit ∧ idle.heavy.MatricesFit ∧ idle.burntWords = 8 ∧
    (Chance.still 0).Unraised ∧ (Chance.still 0xffffffffffffffff).Unraised ∧
    ∃ draft o o' : Outcome, (idle.spinHeavy (.still 0) {}).1 = .ok o ∧
      (idle.spinHeavy (.still 0xffffffffffffffff) {}).1 = .ok o' ∧ draft.Agrees o o' := by
  have hprimes : idle.heavy.PrimesFit := by
    show (3 : UInt64).toNat < Spin.maxLength
    decide
  have hmatrices : idle.heavy.MatricesFit := by
    intro _
    show (2 : UInt64).toNat * (2 : UInt64).toNat < Spin.maxLength
    decide
  obtain ⟨draft, -, hagrees⟩ := (idle.spinHeavy_agrees hprimes).1 hmatrices
  obtain ⟨o, o', hresult, hresult', hagree⟩ :=
    hagrees (.still 0) (.still 0xffffffffffffffff) {} {} (fun _ _ => rfl) fun _ _ => rfl
  exact ⟨hprimes, hmatrices, rfl, fun _ _ => rfl, fun _ _ => rfl, draft, o, o', hresult, hresult',
    hagree⟩

end Engine

end SlotMachine
