import SlotMachine.Proofs.Spin.Course

/-!
# What a raised flag stops

All looks of a heavy spin are on its course, and so it is known when it stops: a flag that goes up
before the last word for the matrices is always seen, and one that goes up later never is.
-/

namespace SlotMachine

namespace Engine

variable {e : Engine}

/-! ### Draws without a look -/

lemma breakTie_blind (reels : Reels) : (e.breakTie reels).Blind := by
  unfold breakTie
  split
  case isTrue => exact (Draw.below_blind _ _).bind fun _ => Draw.blind_pure _
  case isFalse => exact Draw.blind_pure reels

lemma spinNormal_blind : e.spinNormal.Blind := by
  have hdraw : e.pool.draw.Blind := (Draw.below_blind _ _).bind fun _ => Draw.blind_pure _
  unfold spinNormal
  apply (Draw.chance_blind _).bind
  intro win
  split
  case isTrue => exact hdraw.bind fun _ => Draw.blind_pure _
  case isFalse =>
    apply hdraw.bind
    intro first
    apply hdraw.bind
    intro second
    apply hdraw.bind
    intro third
    exact (breakTie_blind _).bind fun _ => Draw.blind_pure _

/-- Finishing a draft is nothing but a draw, without a look at the flag. -/
lemma exists_finish_eq (e : Engine) (draft : Outcome) :
    ∃ d : Draw Outcome, d.Blind ∧ e.finish draft = liftM d := by
  unfold finish
  split
  case isTrue => exact ⟨pure draft, Draw.blind_pure draft, rfl⟩
  case isFalse => exact ⟨.losing <$> e.breakTie draft.reels, (breakTie_blind _).map _, rfl⟩

/-! ### Whole spins -/

/-- A spin stops on the looks of a course: the first that sees the flag up cancels it. If none does,
it makes them all and has the outcome that it has with the flag down. -/
structure StopsOn (x : Spin Outcome) (course : List Act) (chance : Chance) (meter : Meter) :
    Prop where
  cancelled_iff : (x chance meter).1 = .error .cancelled ↔
    ∃ point ∈ Act.looks course meter, chance.isUpAt point = true
  first : ∀ point, (Act.looks course meter).find? chance.isUpAt = some point →
    x chance meter = (.error .cancelled, point.looked)
  outcome : (x chance meter).1 ≠ .error .cancelled → ∃ o, (x chance meter).1 = .ok o ∧
    (x chance.lowered meter).1 = .ok o ∧
    (x chance meter).2.looks = meter.looks + (Act.looks course meter).length

variable {draft : Outcome} {chance : Chance} {meter point : Meter}

lemma spinHeavy_of_find?_eq_some (hdraft : e.heavyDraft.Follows (e.course draft) (· = draft))
    (h : (Act.looks (e.course draft) meter).find? chance.isUpAt = some point) :
    e.spinHeavy chance meter = (.error .cancelled, point.looked) := by
  rw [spinHeavy_eq, Draw.except_bind_apply, hdraft.of_find?_eq_some h]

lemma spinHeavy_of_find?_eq_none (hdraft : e.heavyDraft.Follows (e.course draft) (· = draft))
    (h : (Act.looks (e.course draft) meter).find? chance.isUpAt = none) :
    ∃ o, (e.spinHeavy chance meter).1 = .ok o ∧ (e.spinHeavy chance.lowered meter).1 = .ok o ∧
      (e.spinHeavy chance meter).2.looks =
        meter.looks + (Act.looks (e.course draft) meter).length := by
  obtain ⟨a, hrun, ha⟩ := hdraft.of_find?_eq_none h
  obtain ⟨b, hlowered, hb⟩ := hdraft.of_unraised chance.lowered_unraised meter
  obtain ⟨d, hblind, hfinish⟩ := e.exists_finish_eq draft
  subst ha hb
  rw [spinHeavy_eq, Draw.except_bind_apply, Draw.except_bind_apply, hrun, hlowered]
  dsimp only
  rw [hfinish]
  refine ⟨_, rfl, congrArg Except.ok (hblind.result_congr rfl rfl), ?_⟩
  rw [← Act.looks_after]
  exact hblind.looks_eq _ _

lemma spinHeavy_stopsOn (hdraft : e.heavyDraft.Follows (e.course draft) (· = draft))
    (chance : Chance) (meter : Meter) : StopsOn e.spinHeavy (e.course draft) chance meter := by
  cases hfirst : (Act.looks (e.course draft) meter).find? chance.isUpAt with
  | some point =>
    have hrun := spinHeavy_of_find?_eq_some hdraft hfirst
    have hup : ∃ point ∈ Act.looks (e.course draft) meter, chance.isUpAt point = true :=
      ⟨point, List.mem_of_find?_eq_some hfirst, List.find?_some hfirst⟩
    refine ⟨iff_of_true (congrArg Prod.fst hrun) hup, ?_, ?_⟩
    · intro point' hpoint'
      obtain rfl : point = point' := Option.some.inj (hfirst.symm.trans hpoint')
      exact hrun
    · intro hne
      exact absurd (congrArg Prod.fst hrun) hne
  | none =>
    obtain ⟨o, hrun, hlowered, hlooks⟩ := spinHeavy_of_find?_eq_none hdraft hfirst
    refine ⟨iff_of_false ?_ ?_, ?_, fun _ => ⟨o, hrun, hlowered, hlooks⟩⟩
    · rw [hrun]
      exact nofun
    · rintro ⟨point, hpoint, hup⟩
      exact List.find?_eq_none.1 hfirst point hpoint hup
    · intro point hpoint
      cases hfirst.symm.trans hpoint

/-- Whatever becomes of the matrices, a flag that is up from the start is seen first. -/
lemma spinHeavy_of_isUpAt (hprimes : e.heavy.PrimesFit) (hflag : chance.isUpAt meter = true) :
    e.spinHeavy chance meter = (.error .cancelled, meter.looked) := by
  obtain ⟨primes, -, hsearch⟩ := Primes.upward_finds e.heavy.primeFloor hprimes
  obtain ⟨n, hn⟩ := Nat.exists_eq_succ_of_ne_zero e.tries_ne_zero
  rw [hn, List.replicate_succ] at hsearch
  rw [spinHeavy, Draw.except_bind_apply, hsearch.of_isUpAt hflag]

/-- As long as no word has been taken the search sees the flag down, and then there are no matrices
for the words. -/
lemma spinHeavy_raisedWith_oversized (hprimes : e.heavy.PrimesFit)
    (hmatrices : ¬e.heavy.MatricesFit) (chance : Chance) (meter : Meter) {n : Nat} (hn : 0 < n) :
    (e.spinHeavy (chance.raisedWith (meter.drawn + n)) meter).1 = .error .oversized := by
  obtain ⟨primes, -, hsearch⟩ := Primes.upward_finds e.heavy.primeFloor hprimes
  obtain ⟨found, hrun, -⟩ := hsearch.of_raisedWith chance fun point hpoint =>
    (Act.drawn_of_mem_looks hpoint).trans_lt (Nat.lt_add_of_pos_right hn)
  exact e.spinHeavy_eq_oversized_iff.2 (.inr ⟨found, congrArg Prod.fst hrun, hmatrices⟩)

/-- A flag that goes up with one of the words for the matrices is seen, one that goes up later is
not. -/
lemma spinHeavy_raisedWith (hdraft : e.heavyDraft.Follows (e.course draft) (· = draft))
    (chance : Chance) (meter : Meter) (n : Nat) :
    (n ≤ e.burntWords →
      (e.spinHeavy (chance.raisedWith (meter.drawn + n)) meter).1 = .error .cancelled) ∧
    (e.burntWords < n → ∃ o,
      (e.spinHeavy (chance.raisedWith (meter.drawn + n)) meter).1 = .ok o ∧
      (e.spinHeavy chance.lowered meter).1 = .ok o) := by
  have hstops := spinHeavy_stopsOn hdraft (chance.raisedWith (meter.drawn + n)) meter
  constructor
  · intro hn
    obtain ⟨point, hpoint, hdrawn⟩ := e.exists_mem_course draft meter
    rw [hstops.cancelled_iff]
    refine ⟨point, hpoint, ?_⟩
    rw [Chance.isUpAt_raisedWith, hdrawn]
    exact Nat.add_le_add_left hn _
  · intro hn
    have hunseen : ¬∃ point ∈ Act.looks (e.course draft) meter,
        (chance.raisedWith (meter.drawn + n)).isUpAt point = true := by
      rintro ⟨point, hpoint, hup⟩
      have hlate := chance.isUpAt_raisedWith.1 hup
      have hearly := drawn_le_of_mem_course hpoint
      omega
    obtain ⟨o, hrun, hlowered, -⟩ := hstops.outcome (mt hstops.cancelled_iff.1 hunseen)
    exact ⟨o, hrun, hlowered⟩

/-- Cancelling a heavy spin whose primes and matrices fit in lists is exact. A flag that is up from
the start is seen before a word is taken; one that goes up with the word of number `n` cancels the
spin if that is one of the words for the matrices, and otherwise changes nothing; and whatever the
flag does, it is seen by the looks on the course of the spin or not at all. Matrices that do not fit
keep a spin from being cancelled by a flag that goes up later than at the start. A spin that is
resolved to the normal strategy never looks at the flag. -/
theorem spinHeavy_cancelled_exactly (e : Engine) (hprimes : e.heavy.PrimesFit) :
    (∀ chance meter, chance.isUpAt meter = true →
      e.spinHeavy chance meter = (.error .cancelled, meter.looked)) ∧
    (e.heavy.MatricesFit →
      (∀ (chance : Chance) (meter : Meter) n,
        (n ≤ e.burntWords →
          (e.spinHeavy (chance.raisedWith (meter.drawn + n)) meter).1 = .error .cancelled) ∧
        (e.burntWords < n → ∃ o,
          (e.spinHeavy (chance.raisedWith (meter.drawn + n)) meter).1 = .ok o ∧
          (e.spinHeavy chance.lowered meter).1 = .ok o)) ∧
      ∃ draft, ∀ chance meter, StopsOn e.spinHeavy (e.course draft) chance meter) ∧
    (¬e.heavy.MatricesFit → ∀ (chance : Chance) (meter : Meter) n, 0 < n →
      (e.spinHeavy (chance.raisedWith (meter.drawn + n)) meter).1 = .error .oversized) ∧
    ∀ strategy, e.resolve strategy = .normal → ∀ chance chance' meter,
      chance'.word = chance.word →
      e.spin strategy chance' meter = e.spin strategy chance meter ∧
      (e.spin strategy chance meter).2.looks = meter.looks := by
  refine ⟨fun _ _ => spinHeavy_of_isUpAt hprimes, ?_, ?_, ?_⟩
  · intro hmatrices
    obtain ⟨draft, hdraft⟩ := heavyDraft_follows hprimes hmatrices
    exact ⟨spinHeavy_raisedWith hdraft, draft, spinHeavy_stopsOn hdraft⟩
  · intro hmatrices chance meter n hn
    exact spinHeavy_raisedWith_oversized hprimes hmatrices chance meter hn
  · intro strategy hnormal chance chance' meter hword
    have hblind : e.spinNormal.Blind := spinNormal_blind
    rw [e.spin_of_normal hnormal, e.spin_of_normal hnormal, hblind.eq_of_word meter hword]
    exact ⟨rfl, hblind.looks_eq chance meter⟩

/-- Matrices of a thousand million rows have no more entries than there are words, but more than a
list can have: a flag that goes up with the first word for them is never seen. -/
theorem spinHeavy_unseen_wide :
    ∃ e, (ofTable .reference 0.3).bind (·.withHeavy (idleSettings 3 0x40000000)) = .ok e ∧
      e.heavy.PrimesFit ∧ e.heavy.matrixSize.toNat ^ 2 < UInt64.size ∧ 1 ≤ e.burntWords ∧
      (e.spinHeavy ((Chance.still 0).raisedWith 1) {}).1 = .error .oversized := by
  have hprimes : (idleSettings 3 0x40000000).PrimesFit := by
    show (3 : UInt64).toNat < Spin.maxLength
    decide
  have hmatrices : ¬(idleSettings 3 0x40000000).MatricesFit := by
    intro h
    have hfits : (0x40000000 : UInt64).toNat * (0x40000000 : UInt64).toNat < Spin.maxLength :=
      h (by decide)
    exact absurd hfits (by decide)
  refine ⟨_, rfl, hprimes, ?_, ?_, ?_⟩
  · show (0x40000000 : UInt64).toNat ^ 2 < UInt64.size
    decide
  · show 1 ≤ Matrix.burntWords (0x40000000 : UInt64).toNat (1 : UInt32).toNat
    decide
  · exact spinHeavy_raisedWith_oversized hprimes hmatrices (.still 0) {} Nat.one_pos

/-- With matrices of two rows there are eight words for them. -/
theorem spinHeavy_cancelled_exactly_idle :
    idle.heavy.PrimesFit ∧ idle.heavy.MatricesFit ∧ idle.burntWords = 8 ∧
    idle.resolve .normal = .normal ∧
    (idle.spinHeavy ((Chance.still 0).raisedWith 8) {}).1 = .error .cancelled ∧
    ∃ o, (idle.spinHeavy ((Chance.still 0).raisedWith 9) {}).1 = .ok o ∧
      (idle.spinHeavy (Chance.still 0).lowered {}).1 = .ok o := by
  have hprimes : idle.heavy.PrimesFit := by
    show (3 : UInt64).toNat < Spin.maxLength
    decide
  have hmatrices : idle.heavy.MatricesFit := by
    intro _
    show (2 : UInt64).toNat * (2 : UInt64).toNat < Spin.maxLength
    decide
  have hwords : idle.burntWords = 8 := rfl
  obtain ⟨-, hfit, -, -⟩ := spinHeavy_cancelled_exactly idle hprimes
  obtain ⟨hraised, -⟩ := hfit hmatrices
  obtain ⟨hcancelled, -⟩ := hraised (.still 0) {} 8
  obtain ⟨-, hfinished⟩ := hraised (.still 0) {} 9
  rw [hwords] at hcancelled hfinished
  exact ⟨hprimes, hmatrices, hwords, rfl, hcancelled le_rfl, hfinished (by decide)⟩

end Engine

end SlotMachine
