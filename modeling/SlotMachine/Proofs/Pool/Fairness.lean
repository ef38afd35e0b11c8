import Mathlib.Algebra.BigOperators.Field
import Mathlib.Algebra.Order.BigOperators.Group.Finset
import Mathlib.Algebra.Order.Field.Basic
import Mathlib.Algebra.Order.Floor.Div
import Mathlib.Data.Fintype.Prod
import Mathlib.Data.Rat.Cast.Order
import Mathlib.Logic.Equiv.Fin.Basic
import Mathlib.Order.Interval.Finset.Nat
import Mathlib.Tactic.FieldSimp
import Mathlib.Tactic.Linarith
import Mathlib.Tactic.Positivity
import SlotMachine.Proofs.Draw.Below
import SlotMachine.Proofs.Pool.Runs

/-!
# Fair draws

How often each symbol is drawn from a pool, counted over all pairs of half words: as often as its
weight asks for, but for less than one pair. It is the pairs that fall into the run of the symbol,
and since the pairs are spread evenly over the pool, a run of entries gets an interval of pairs.
-/

namespace SlotMachine

open Draw (joined)

/-! ### Pairs of half words -/

/-- The chance that has two half words. -/
def Chance.ofHalves (a b : UInt32) : Chance where
  word i := if i = 0 then a.toUInt64 else b.toUInt64
  raised _ _ := false

@[simp] lemma Chance.half_ofHalves_zero (a b : UInt32) : (ofHalves a b).half 0 = a := by
  simp [half, ofHalves]

@[simp] lemma Chance.half_ofHalves_one (a b : UInt32) : (ofHalves a b).half 1 = b := by
  simp [half, ofHalves]

/-- Half words are the numbers below their size. -/
def halfEquiv : UInt32 ≃ Fin UInt32.size where
  toFun := UInt32.toFin
  invFun := UInt32.ofFin
  left_inv _ := rfl
  right_inv _ := rfl

instance fintypeHalf : Fintype UInt32 := Fintype.ofEquiv _ halfEquiv.symm

namespace Draw

/-- Of the pairs of places below `n`, as many make a number from `lo` to below `hi` as there are
such numbers. -/
lemma card_pairs {α : Type} [Fintype α] {n lo hi : Nat} (place : α ≃ Fin n) (hhi : hi ≤ n * n) :
    (Finset.univ.filter fun w : α × α => lo ≤ (place w.1).val * n + (place w.2).val ∧
      (place w.1).val * n + (place w.2).val < hi).card = hi - lo := by
  have hnumber : ∀ w : α × α, (place w.1).val * n + (place w.2).val =
      ((place.prodCongr place).trans finProdFinEquiv w).val := by
    intro w
    simp [Nat.add_comm, Nat.mul_comm]
  simp only [hnumber]
  generalize (place.prodCongr place).trans finProdFinEquiv = number
  rw [← Nat.card_Ico]
  refine Finset.card_bij (fun w _ => (number w).val) ?_ ?_ ?_
  · intro w hw
    exact Finset.mem_Ico.2 (Finset.mem_filter.1 hw).2
  · intro w _ w' _ h
    exact number.injective (Fin.ext h)
  · intro k hk
    obtain ⟨hlo, hlt⟩ := Finset.mem_Ico.1 hk
    refine ⟨number.symm ⟨k, hlt.trans_le hhi⟩, ?_, ?_⟩
    · simp [hlo, hlt]
    · simp

variable {M W start w k : Nat}

/-- The numbers that are scaled into a run are an interval. -/
lemma scaled_mem_iff (hM : 0 < M) (hW : 0 < W) {stop : Nat} :
    (start ≤ k * W / M ∧ k * W / M < stop) ↔ (start * M) ⌈/⌉ W ≤ k ∧ k < (stop * M) ⌈/⌉ W := by
  rw [Nat.le_div_iff_mul_le hM, Nat.div_lt_iff_lt_mul hM, ceilDiv_le_iff_le_mul hW, ← not_le,
    ← not_le (b := k), ceilDiv_le_iff_le_mul hW, Nat.mul_comm W]

lemma mul_ceilDiv_lt (hW : 0 < W) (n : Nat) : W * (n ⌈/⌉ W) < n + W := by
  have hle := Nat.mul_div_le (n + W - 1) W
  rw [Nat.ceilDiv_eq_add_pred_div]
  omega

/-- Rounded up at both ends, a length is off by less than one. -/
lemma abs_ceilDiv_sub_lt (hW : 0 < W) {m n : Nat} (h : m ≤ n) :
    |((n ⌈/⌉ W - m ⌈/⌉ W : Nat) : ℚ) - ((n - m : Nat) : ℚ) / W| < 1 := by
  have hW' : (0 : ℚ) < W := Nat.cast_pos.2 hW
  have hle : m ⌈/⌉ W ≤ n ⌈/⌉ W :=
    (ceilDiv_le_iff_le_mul hW).2 (h.trans (le_smul_ceilDiv hW))
  have hn : (n : ℚ) ≤ W * (n ⌈/⌉ W : Nat) := by exact_mod_cast le_smul_ceilDiv (b := n) hW
  have hm : (m : ℚ) ≤ W * (m ⌈/⌉ W : Nat) := by exact_mod_cast le_smul_ceilDiv (b := m) hW
  have hn' : (W : ℚ) * (n ⌈/⌉ W : Nat) < n + W := by exact_mod_cast mul_ceilDiv_lt hW n
  have hm' : (W : ℚ) * (m ⌈/⌉ W : Nat) < m + W := by exact_mod_cast mul_ceilDiv_lt hW m
  have hlength : (W : ℚ) * (((n : ℚ) - m) / W) = n - m := mul_div_cancel₀ _ hW'.ne'
  rw [Nat.cast_sub hle, Nat.cast_sub h, abs_sub_lt_iff]
  constructor
  · refine lt_of_mul_lt_mul_left ?_ hW'.le
    linarith
  · refine lt_of_mul_lt_mul_left ?_ hW'.le
    linarith

end Draw

/-! ### How often a symbol is drawn -/

namespace SymbolTable

variable (t : SymbolTable)

/-- The symbol that two half words draw. -/
def drawnBy (words : UInt32 × UInt32) : Symbol := (t.pool.draw (.ofHalves words.1 words.2) {}).1

/-- How many pairs of half words draw a symbol. -/
def ways (s : Symbol) : Nat := (Finset.univ.filter fun words => t.drawnBy words = s).card

/-- The mean of what the drawn symbols pay, over all pairs of half words. -/
def meanMultiplier : ℚ :=
  (∑ words : UInt32 × UInt32, ((t.multiplier (t.drawnBy words)).toNat : ℚ)) / 2 ^ 64

lemma totalWeight_le_word : t.totalWeight ≤ 2 ^ 32 :=
  t.totalWeight_le.trans (by decide)

/-- The index that two half words choose, whether the second one is needed for it or not. -/
lemma draw_apply (chance : Chance) (meter : Meter) :
    let a := chance.half meter.drawn
    let b := chance.half (meter.drawn + 1)
    let index := joined a.toNat b.toNat * t.totalWeight / 2 ^ 64
    index < t.totalWeight ∧ t.pool.entries[index]? = some (t.pool.draw chance meter).1 ∧
    (t.pool.draw chance meter).2 =
      { meter with drawn := meter.drawn + Draw.wordsBelow t.totalWeight a } := by
  intro a b index
  obtain ⟨hindex, hmeter⟩ :=
    Draw.below_apply t.pool.size_pos (t.size_pool ▸ t.totalWeight_le_word) chance meter
  have hchosen : (Draw.below _ t.pool.size_pos chance meter).1.val = index := by
    rw [hindex, t.size_pool]
  refine ⟨?_, ?_, ?_⟩
  · rw [← hchosen, ← t.size_pool]
    exact Fin.isLt _
  · rw [← hchosen]
    exact Array.getElem?_eq_getElem _
  · rw [Pool.draw, Draw.bind_apply, Draw.pure_apply, hmeter, t.size_pool]

/-- The pairs that draw a symbol are those whose numbers are scaled into its run. -/
lemma drawnBy_eq_iff {spec : SymbolSpec} {start : Nat}
    (hrun : ∀ i, t.pool.entries[i]? = some spec.symbol ↔
      start ≤ i ∧ i < start + spec.weight.toNat) (words : UInt32 × UInt32) :
    t.drawnBy words = spec.symbol ↔
      (start * 2 ^ 64) ⌈/⌉ t.totalWeight ≤ joined words.1.toNat words.2.toNat ∧
      joined words.1.toNat words.2.toNat <
        ((start + spec.weight.toNat) * 2 ^ 64) ⌈/⌉ t.totalWeight := by
  obtain ⟨-, hentry, -⟩ := t.draw_apply (.ofHalves words.1 words.2) {}
  rw [Nat.zero_add, Chance.half_ofHalves_zero, Chance.half_ofHalves_one] at hentry
  rw [← Draw.scaled_mem_iff (by decide) t.totalWeight_pos, ← hrun, hentry, Option.some.injEq,
    drawnBy]

lemma ways_eq {spec : SymbolSpec} (h : spec ∈ t.specs) :
    ∃ start, t.ways spec.symbol =
      ((start + spec.weight.toNat) * 2 ^ 64) ⌈/⌉ t.totalWeight -
        (start * 2 ^ 64) ⌈/⌉ t.totalWeight := by
  obtain ⟨start, hle, hrun⟩ := t.exists_run h
  refine ⟨start, ?_⟩
  have hstop : ((start + spec.weight.toNat) * 2 ^ 64) ⌈/⌉ t.totalWeight ≤
      UInt32.size * UInt32.size :=
    (ceilDiv_le_iff_le_mul t.totalWeight_pos).2 (Nat.mul_le_mul_right _ hle)
  rw [ways, ← Draw.card_pairs halfEquiv hstop]
  exact congrArg Finset.card (Finset.filter_congr fun words _ => t.drawnBy_eq_iff hrun words)

/-- As often as its weight asks for, but for less than one pair. -/
lemma abs_ways_sub_lt {spec : SymbolSpec} (h : spec ∈ t.specs) :
    |(t.ways spec.symbol : ℚ) - spec.weight.toNat * 2 ^ 64 / t.totalWeight| < 1 := by
  obtain ⟨start, hways⟩ := t.ways_eq h
  have hlength := Draw.abs_ceilDiv_sub_lt (m := start * 2 ^ 64)
    (n := (start + spec.weight.toNat) * 2 ^ 64) t.totalWeight_pos
    (Nat.mul_le_mul_right _ (Nat.le_add_right _ _))
  rw [← hways, ← Nat.sub_mul, Nat.add_sub_cancel_left] at hlength
  exact_mod_cast hlength

lemma multiplier_pos {spec : SymbolSpec} (h : spec ∈ t.specs) : 0 < spec.multiplier.toNat :=
  Nat.pos_of_ne_zero fun h0 => t.multiplier_ne_zero spec h (UInt32.toNat_inj.1 h0)

lemma ways_pos {spec : SymbolSpec} (h : spec ∈ t.specs) : 0 < t.ways spec.symbol := by
  have hW : (0 : ℚ) < t.totalWeight := Nat.cast_pos.2 t.totalWeight_pos
  have hle : t.totalWeight ≤ spec.weight.toNat * 2 ^ 64 := by
    have hweight := t.weight_pos h
    have hword := t.totalWeight_le_word
    omega
  have hone : (1 : ℚ) ≤ spec.weight.toNat * 2 ^ 64 / t.totalWeight :=
    (one_le_div hW).2 (by exact_mod_cast hle)
  have hways : (0 : ℚ) < t.ways spec.symbol := by
    linarith [(abs_sub_lt_iff.1 (t.abs_ways_sub_lt h)).2]
  exact_mod_cast hways

lemma drawn_mem (chance : Chance) (meter : Meter) :
    (t.pool.draw chance meter).1 ∈ t.symbols :=
  mem_symbols_of_mem_pool (t.pool.draw_ensures_mem chance meter)

/-! ### The mean of what is paid -/

lemma multiplier_eq {spec : SymbolSpec} (h : spec ∈ t.specs) :
    t.multiplier spec.symbol = spec.multiplier := by
  unfold multiplier spec?
  split
  case h_1 spec' hfind =>
    have hsymbol : spec'.symbol = spec.symbol := by simpa using List.find?_some hfind
    rw [List.inj_on_of_nodup_map t.nodup (List.mem_of_find?_eq_some hfind) h hsymbol]
  case h_2 hnone => exact absurd (beq_self_eq_true _) (List.find?_eq_none.1 hnone spec h)

/-- A sum over pairs, by what they draw. -/
lemma sum_drawnBy (f : Symbol → ℚ) :
    ∑ words, f (t.drawnBy words) =
      ∑ spec ∈ t.specs.toFinset, t.ways spec.symbol * f spec.symbol := by
  have hways : ∀ s, ∑ words with t.drawnBy words = s, f s = t.ways s * f s := by
    intro s
    rw [Finset.sum_const, nsmul_eq_mul, ways]
  have hmem : ∀ words, t.drawnBy words ∈ t.symbols.toFinset := fun words =>
    List.mem_toFinset.2 (t.drawn_mem _ _)
  rw [← Finset.sum_fiberwise_of_maps_to' fun words _ => hmem words,
    Finset.sum_congr rfl fun s _ => hways s, symbols, List.sum_toFinset _ t.nodup,
    List.sum_toFinset _ (t.nodup.of_map _), List.map_map]
  rfl

lemma weightedMultiplier_eq (specs : List SymbolSpec) :
    SymbolSpec.weightedMultiplier specs =
      (specs.map fun spec => spec.weight.toNat * spec.multiplier.toNat).sum := by
  induction specs with
  | nil => rfl
  | cons spec specs ih => rw [SymbolSpec.weightedMultiplier, ih, List.map_cons, List.sum_cons]

/-- What one symbol adds to two means: to that over `d` pairs, of which `n` draw it, and to that
over `W` entries, of which `w` are its own. -/
lemma mean_sub_mean {n w m W d : ℚ} (hW : W ≠ 0) (hd : d ≠ 0) :
    n * m / d - w * m / W = m / d * (n - w * d / W) := by
  field_simp

/-- What each symbol adds to the difference of the means. -/
lemma meanMultiplier_sub_eq :
    t.meanMultiplier - SymbolSpec.weightedMultiplier t.specs / t.totalWeight =
      ∑ spec ∈ t.specs.toFinset, (spec.multiplier.toNat : ℚ) / 2 ^ 64 *
        (t.ways spec.symbol - spec.weight.toNat * 2 ^ 64 / t.totalWeight) := by
  have hW : (t.totalWeight : ℚ) ≠ 0 := Nat.cast_ne_zero.2 t.totalWeight_pos.ne'
  rw [meanMultiplier, t.sum_drawnBy fun s => (t.multiplier s).toNat, weightedMultiplier_eq,
    ← List.sum_toFinset _ (t.nodup.of_map _), Nat.cast_sum, Finset.sum_div, Finset.sum_div,
    ← Finset.sum_sub_distrib]
  refine Finset.sum_congr rfl fun spec hspec => ?_
  rw [t.multiplier_eq (List.mem_toFinset.1 hspec), Nat.cast_mul]
  exact mean_sub_mean hW (by positivity)

lemma toFinset_specs_nonempty : t.specs.toFinset.Nonempty := by
  rw [List.toFinset_nonempty_iff, ← List.length_pos_iff]
  exact Nat.zero_lt_two.trans_le t.two_le_length

/-- The mean that the pairs pay is the one that the weights ask for, but for less than one pair for
each multiplier. -/
lemma abs_meanMultiplier_sub_lt :
    |t.meanMultiplier - SymbolSpec.weightedMultiplier t.specs / t.totalWeight| <
      ((t.specs.map (·.multiplier.toNat)).sum : Nat) / 2 ^ 64 := by
  rw [meanMultiplier_sub_eq, ← List.sum_toFinset _ (t.nodup.of_map _), Nat.cast_sum,
    Finset.sum_div]
  refine (Finset.abs_sum_le_sum_abs _ _).trans_lt
    (Finset.sum_lt_sum_of_nonempty t.toFinset_specs_nonempty ?_)
  intro spec hspec
  have hpos : (0 : ℚ) < spec.multiplier.toNat / 2 ^ 64 :=
    div_pos (Nat.cast_pos.2 (t.multiplier_pos (List.mem_toFinset.1 hspec))) (by positivity)
  rw [abs_mul, abs_of_pos hpos]
  exact mul_lt_of_lt_one_right hpos (t.abs_ways_sub_lt (List.mem_toFinset.1 hspec))

/-- Whatever the half words are, the index that is drawn is the whole part of the product of the
total weight with the fraction that two of them make, although the second one is only taken when it
could make a carry. So, of all pairs of half words, as many draw a symbol as its weight asks for,
but for less than one pair. Every symbol of the table can be drawn, and no other is; and the mean
that is paid differs from the one that the weights ask for by less than one pair for each
multiplier. -/
theorem draws_fairly (t : SymbolTable) :
    (∀ chance meter,
      let a := (chance.half meter.drawn).toNat
      let b := (chance.half (meter.drawn + 1)).toNat
      let index := (a * 2 ^ 32 + b) * t.totalWeight / 2 ^ 64
      index < t.totalWeight ∧ t.pool.entries[index]? = some (t.pool.draw chance meter).1 ∧
      (t.pool.draw chance meter).1 ∈ t.symbols ∧
      (t.pool.draw chance meter).2 = { meter with drawn := meter.drawn +
        if 2 ^ 32 - t.totalWeight < a * t.totalWeight % 2 ^ 32 then 2 else 1 }) ∧
    (∀ spec ∈ t.specs, 0 < t.ways spec.symbol ∧
      |(t.ways spec.symbol : ℚ) - spec.weight.toNat * 2 ^ 64 / t.totalWeight| < 1) ∧
    |t.meanMultiplier - SymbolSpec.weightedMultiplier t.specs / t.totalWeight| <
      ((t.specs.map (·.multiplier.toNat)).sum : Nat) / 2 ^ 64 := by
  refine ⟨fun chance meter => ?_, fun spec hspec => ⟨t.ways_pos hspec, t.abs_ways_sub_lt hspec⟩,
    t.abs_meanMultiplier_sub_lt⟩
  obtain ⟨hlt, hentry, hmeter⟩ := t.draw_apply chance meter
  exact ⟨hlt, hentry, t.drawn_mem chance meter, hmeter⟩

/-- Diamonds are the rarest symbols of the built-in table. -/
theorem draws_fairly_reference :
    SymbolSpec.mk .diamond 2 20 ∈ reference.specs ∧
    |(reference.ways .diamond : ℚ) - 2 * 2 ^ 64 / 100| < 1 ∧
    |reference.meanMultiplier - 410 / 100| < 44 / 2 ^ 64 := by
  obtain ⟨-, hways, hmean⟩ := draws_fairly reference
  have hdiamond : SymbolSpec.mk .diamond 2 20 ∈ reference.specs := by decide
  have htotal : reference.totalWeight = 100 := rfl
  have hweighted : SymbolSpec.weightedMultiplier reference.specs = 410 := rfl
  have hmultipliers : (reference.specs.map (·.multiplier.toNat)).sum = 44 := rfl
  rw [htotal, hweighted, hmultipliers] at hmean
  have hdiamonds := (hways _ hdiamond).2
  rw [htotal] at hdiamonds
  exact ⟨hdiamond, by exact_mod_cast hdiamonds, by exact_mod_cast hmean⟩

end SymbolTable

end SlotMachine
