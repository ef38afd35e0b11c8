import SlotMachine.Proofs.Draw.Ensures
import SlotMachine.Spin

/-!
# Outcomes of spins

Every outcome that a spin comes to fits the table of its engine: the reels show symbols of the
table, they win exactly if they are three of a kind, and the multiplier is that of the symbol on a
win and zero on a loss.

The three ways to an outcome meet in `fits_winning` and `fits_losing`. A winning outcome needs no
more than a symbol of the table. A losing one needs reels that are not three of a kind, which is
what `breakTie` makes of any reels, because a table has another symbol for every symbol.
-/

namespace SlotMachine

/-! ### Tables and pools -/

namespace SymbolTable

variable {t : SymbolTable} {s : Symbol}

lemma mem_poolEntries {specs : List SymbolSpec} (h : s ∈ poolEntries specs) :
    s ∈ specs.map (·.symbol) := by
  simp only [poolEntries, List.mem_flatMap, List.mem_replicate] at h
  obtain ⟨spec, hspec, -, rfl⟩ := h
  exact List.mem_map_of_mem hspec

lemma mem_symbols_of_mem_pool (h : s ∈ t.pool.entries) : s ∈ t.symbols := by
  simp only [pool, List.mem_toArray] at h
  exact mem_poolEntries h

lemma mem_others {s' : Symbol} : s' ∈ t.others s ↔ s' ∈ t.symbols ∧ s' ≠ s := by
  simp [others]

/-- Every symbol pays at least the bet. -/
lemma one_le_multiplier (t : SymbolTable) (s : Symbol) : 1 ≤ t.multiplier s := by
  unfold multiplier
  split
  case h_1 spec h =>
    have hne : spec.multiplier ≠ 0 :=
      t.multiplier_ne_zero spec (List.mem_of_find?_eq_some h)
    have hpos : 0 < spec.multiplier.toNat :=
      Nat.pos_of_ne_zero fun h0 => hne (UInt32.toNat_inj.1 h0)
    exact UInt32.le_iff_toNat_le.2 hpos
  case h_2 => exact UInt32.le_refl 1

end SymbolTable

namespace Pool

variable (p : Pool)

lemma entryAt_mem (index : Nat) : p.entryAt index ∈ p.entries := by
  simp [entryAt]

lemma draw_ensures_mem : p.draw.Ensures (· ∈ p.entries) := by
  refine (Draw.ensures_true _).bind fun i _ => ?_
  exact Draw.ensures_pure (Array.getElem_mem i.isLt)

end Pool

/-! ### Outcomes that fit a table -/

namespace Reels

lemma allEqual_iff (r : Reels) :
    r.allEqual = true ↔ r.first = r.second ∧ r.second = r.third := by
  simp [allEqual]

/-- All reels show symbols of the table. -/
def In (r : Reels) (t : SymbolTable) : Prop := ∀ s ∈ r.toList, s ∈ t.symbols

lemma in_iff {r : Reels} {t : SymbolTable} :
    r.In t ↔ r.first ∈ t.symbols ∧ r.second ∈ t.symbols ∧ r.third ∈ t.symbols := by
  simp [In, toList]

end Reels

namespace Outcome

/-- An outcome that a table admits. -/
structure Fits (o : Outcome) (t : SymbolTable) : Prop where
  reels_in : o.reels.In t
  win_iff : o.win = true ↔ o.reels.first = o.reels.second ∧ o.reels.second = o.reels.third
  multiplier_of_win : o.win = true → o.multiplier = t.multiplier o.reels.first ∧ 1 ≤ o.multiplier
  multiplier_of_loss : o.win = false → o.multiplier = 0

variable {t : SymbolTable}

lemma fits_winning {s : Symbol} (h : s ∈ t.symbols) : (winning s t).Fits t where
  reels_in := Reels.in_iff.2 ⟨h, h, h⟩
  win_iff := by simp [winning]
  multiplier_of_win _ := ⟨rfl, t.one_le_multiplier s⟩
  multiplier_of_loss h := by cases h

lemma fits_losing {r : Reels} (h : r.In t) (hr : r.allEqual = false) : (losing r).Fits t where
  reels_in := h
  win_iff := by
    have hne : ¬(r.first = r.second ∧ r.second = r.third) := by
      rw [← r.allEqual_iff, hr]
      exact Bool.false_ne_true
    exact iff_of_false Bool.false_ne_true hne
  multiplier_of_win h := by cases h
  multiplier_of_loss _ := rfl

end Outcome

/-! ### The steps of a spin -/

namespace Engine

variable (e : Engine)

lemma mem_symbols_of_mem_pool {s : Symbol} (h : s ∈ e.pool.entries) : s ∈ e.table.symbols := by
  rw [e.pool_eq] at h
  exact SymbolTable.mem_symbols_of_mem_pool h

lemma draw_ensures_mem : e.pool.draw.Ensures (· ∈ e.table.symbols) :=
  fun chance meter => e.mem_symbols_of_mem_pool (e.pool.draw_ensures_mem chance meter)

/-- Wherever a sum comes out, also as an infinity or as not-a-number, the reel stops in the pool. -/
lemma stop_mem (sum : Float) : e.stop sum ∈ e.table.symbols :=
  e.mem_symbols_of_mem_pool (e.pool.entryAt_mem _)

/-- Three of a kind are broken up, other reels are left alone. -/
lemma breakTie_ensures {r : Reels} (h : r.In e.table) :
    (e.breakTie r).Ensures fun r' => r'.In e.table ∧ r'.allEqual = false := by
  obtain ⟨h1, -, h3⟩ := Reels.in_iff.1 h
  unfold breakTie
  cases hr : r.allEqual with
  | true =>
    refine (Draw.ensures_true _).bind fun i _ => Draw.ensures_pure ?_
    obtain ⟨hi, hne⟩ := SymbolTable.mem_others.1 (List.getElem_mem i.isLt)
    refine ⟨Reels.in_iff.2 ⟨h1, hi, h3⟩, ?_⟩
    simp [Reels.allEqual, Ne.symm hne]
  | false => exact Draw.ensures_pure ⟨h, hr⟩

/-- Reels of symbols of the table lose once a tie among them is broken. -/
lemma losing_breakTie_ensures {r : Reels} (h : r.In e.table) :
    (Outcome.losing <$> e.breakTie r).Ensures (·.Fits e.table) :=
  fun chance meter =>
    have hr := e.breakTie_ensures h chance meter
    Outcome.fits_losing hr.1 hr.2

lemma spinNormal_ensures : e.spinNormal.Ensures (·.Fits e.table) := by
  refine (Draw.ensures_true _).bind fun win _ => ?_
  cases win with
  | true => exact e.draw_ensures_mem.bind fun s hs => Draw.ensures_pure (Outcome.fits_winning hs)
  | false =>
    refine e.draw_ensures_mem.bind fun first h1 => ?_
    refine e.draw_ensures_mem.bind fun second h2 => ?_
    refine e.draw_ensures_mem.bind fun third h3 => ?_
    exact e.losing_breakTie_ensures (Reels.in_iff.2 ⟨h1, h2, h3⟩)

lemma heavyReel_ensures (primes : List UInt64) (reel : Nat) :
    (e.heavyReel primes reel).Ensures (· ∈ e.table.symbols) :=
  (Spin.ensures_true _).bind fun sum _ => Spin.ensures_pure (e.stop_mem sum)

lemma spinHeavy_ensures : e.spinHeavy.Ensures (·.Fits e.table) := by
  refine (Spin.ensures_true _).bind fun primes _ => ?_
  refine (Spin.ensures_true _).bind fun _ _ => ?_
  refine (Spin.ensures_true _).bind fun sum _ => ?_
  dsimp only
  split
  · exact Spin.ensures_pure (Outcome.fits_winning (e.stop_mem _))
  · refine (e.heavyReel_ensures primes 0).bind fun first h1 => ?_
    refine (e.heavyReel_ensures primes 1).bind fun second h2 => ?_
    refine (e.heavyReel_ensures primes 2).bind fun third h3 => ?_
    refine (Spin.ensures_liftM (e.breakTie_ensures (Reels.in_iff.2 ⟨h1, h2, h3⟩))).bind ?_
    exact fun reels hr => Spin.ensures_pure (Outcome.fits_losing hr.1 hr.2)

lemma spin_ensures (strategy : Strategy) : (e.spin strategy).Ensures (·.Fits e.table) := by
  unfold spin
  cases e.resolve strategy with
  | normal => exact Spin.ensures_liftM e.spinNormal_ensures
  | heavy => exact e.spinHeavy_ensures

/-- The outcome of a spin fits the table of the engine, whichever strategy is asked for, whatever
the words are and whenever the flag is raised. Nothing is asked of the sums of the heavy strategy:
the last part holds for any three floats in their place. -/
theorem outcome_fits (chance : Chance) (meter : Meter) :
    (e.spinNormal chance meter).1.Fits e.table ∧
    (∀ o, (e.spinHeavy chance meter).1 = .ok o → o.Fits e.table) ∧
    (∀ strategy o, (e.spin strategy chance meter).1 = .ok o → o.Fits e.table) ∧
    ∀ x y z : Float,
      (Outcome.winning (e.stop x) e.table).Fits e.table ∧
      (Outcome.losing (e.breakTie ⟨e.stop x, e.stop y, e.stop z⟩ chance meter).1).Fits e.table := by
  refine ⟨e.spinNormal_ensures chance meter, e.spinHeavy_ensures chance meter,
    fun strategy => e.spin_ensures strategy chance meter, fun x y z => ⟨?_, ?_⟩⟩
  · exact Outcome.fits_winning (e.stop_mem x)
  · have hreels : Reels.In ⟨e.stop x, e.stop y, e.stop z⟩ e.table :=
      Reels.in_iff.2 ⟨e.stop_mem x, e.stop_mem y, e.stop_mem z⟩
    exact e.losing_breakTie_ensures hreels chance meter

end Engine

/-! ### An engine that finds no primes -/

/-- All words are the same, and the flag stays down. -/
def Chance.still (word : UInt64) : Chance where
  word _ := word
  raised _ _ := false

namespace Engine

/-- The search for primes begins at the last word and ends there, with none found. -/
def primeless : Engine where
  table := .reference
  pool := SymbolTable.reference.pool
  pool_eq := rfl
  winProbability := 0.3
  isProbability := by decide
  heavy := { primeFloor := Primes.lastWord, primeCount := 3, iterations := 1, matrixSize := 0 }
  three_le_primeCount := by decide
  iterations_ne_zero := by decide

lemma isPrime_lastWord : Primes.isPrime Primes.lastWord = false := by
  -- three divides it
  have h3 : Primes.hasNoDivisorFrom Primes.lastWord 3 = false := by
    rw [Primes.hasNoDivisorFrom]
    rfl
  have h2 : Primes.hasNoDivisorFrom Primes.lastWord 2 = false := by
    rw [Primes.hasNoDivisorFrom]
    exact h3
  simp [Primes.isPrime, h2]

lemma upward_lastWord (word : UInt64) (meter : Meter) :
    (Primes.upward Primes.lastWord 3 (.still word) meter).1 = .ok [] := by
  change (Primes.search 3 [] Primes.lastWord (.still word) meter).1 = .ok []
  rw [Primes.search]
  simp [isPrime_lastWord, Draw.except_bind_apply, Spin.checkpoint, Chance.still]
  rfl

/-- No prime gives the sum zero, which wins and stops at the first entry of the pool. -/
lemma spinHeavy_primeless :
    (primeless.spinHeavy (.still 0) {}).1 = .ok (.winning .cherry .reference) := by
  have hwin : Binary64.remainder (0.0 : Float).abs 100.0 / 100.0 < 0.3 := by decide +kernel
  have hstop : primeless.stop (0.0 * (1 : UInt64).toFloat) = .cherry := by decide +kernel
  have hprimes : (Primes.upward primeless.heavy.primeFloor primeless.heavy.primeCount
      (.still 0) {}).1 = .ok [] := upward_lastWord 0 {}
  have hburn : ∀ meter, Matrix.burn primeless.heavy.matrixSize.toNat
      primeless.heavy.matrixRounds.toNat (.still 0) meter = (.ok (), meter) := fun _ => rfl
  have hsum : ∀ meter, heavySum [] primeless.heavy.iterations.toNat (.still 0) meter
      = (.ok 0.0, meter) := fun _ => rfl
  rw [spinHeavy, Draw.except_bind_apply, hprimes]
  dsimp only
  rw [Draw.except_bind_apply, hburn]
  dsimp only
  rw [Draw.except_bind_apply, hsum]
  dsimp only
  rw [show primeless.winProbability = 0.3 from rfl, if_pos hwin]
  exact congrArg (fun s => Except.ok (Outcome.winning s .reference)) hstop

/-- Its normal strategy draws three diamonds from words of ones, and puts a star between them. -/
lemma spin_normal_primeless :
    (primeless.spin .normal (.still 0xffffffffffffffff) {}).1
      = .ok (.losing ⟨.diamond, .star, .diamond⟩) := by
  rfl

theorem outcome_fits_primeless :
    (primeless.spinHeavy (.still 0) {}).1 = .ok (.winning .cherry .reference) ∧
    (Outcome.winning .cherry .reference).Fits .reference ∧
    (primeless.spin .normal (.still 0xffffffffffffffff) {}).1
      = .ok (.losing ⟨.diamond, .star, .diamond⟩) ∧
    (Outcome.losing ⟨.diamond, .star, .diamond⟩).Fits .reference := by
  refine ⟨spinHeavy_primeless, ?_, spin_normal_primeless, ?_⟩
  · exact (primeless.outcome_fits (.still 0) {}).2.1 _ spinHeavy_primeless
  · exact (primeless.outcome_fits (.still 0xffffffffffffffff) {}).2.2.1 _ _ spin_normal_primeless

end Engine

end SlotMachine
