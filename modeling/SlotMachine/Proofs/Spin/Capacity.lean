import Mathlib.Algebra.Order.Ring.Nat
import Mathlib.Data.List.FinRange
import SlotMachine.Proofs.Spin.Outcome
import SlotMachine.Proofs.Spin.Steps

/-!
# Lists that a spin asks for

The settings of the heavy strategy have no upper limits, so they may ask for lists that are longer
than any list can be. The main result says that nothing else keeps a spin from its end: it comes to
an outcome or is cancelled unless its primes, or the entries of its matrices, are too many.

All indices are in range by their types: a pool counts round and round, the other symbols and the
matrices are indexed by `Fin`. Where matrices are laid out flat, an index is computed in words; it
stays in range as long as the entries fit in a list (`cell?_entries`).
-/

namespace SlotMachine

open Draw (Closed)

/-! ### Matrices laid out flat -/

namespace Matrix

/-- All entries, row by row. -/
def entries {n : Nat} (a : Matrix n) : Array Float := a.flatten.toArray

/-- The sum of the products of a row with a column, of matrices that are laid out flat; nothing if
an index is out of range. -/
def cell? (size : UInt64) (a b : Array Float) (row col : UInt64) : Option Float :=
  (List.range size.toNat).foldlM (fun sum k => do
    let x ← a[(row * size + k.toUInt64).toNat]?
    let y ← b[(k.toUInt64 * size + col).toNat]?
    pure (sum + x * y)) 0.0

variable {size : UInt64}

lemma index_lt {n : Nat} (row col : Fin n) : row.val * n + col.val < n * n :=
  calc row.val * n + col.val < row.val * n + n := Nat.add_lt_add_left col.isLt _
    _ = (row.val + 1) * n := (Nat.succ_mul _ _).symm
    _ ≤ n * n := Nat.mul_le_mul_right n row.isLt

/-- The index of an entry does not leave the range of words. -/
lemma toNat_index (h : size.toNat * size.toNat < Spin.maxLength) (row col : Fin size.toNat) :
    (row.val.toUInt64 * size + col.val.toUInt64).toNat = row.val * size.toNat + col.val := by
  have hindex := index_lt row col
  have hmax : Spin.maxLength < UInt64.size := by decide
  have hsize := size.toNat_lt_size
  simp only [UInt64.size] at hmax hsize
  have hrow : row.val.toUInt64.toNat = row.val := Nat.mod_eq_of_lt (row.isLt.trans hsize)
  have hcol : col.val.toUInt64.toNat = col.val := Nat.mod_eq_of_lt (col.isLt.trans hsize)
  rw [UInt64.toNat_add, UInt64.toNat_mul, hrow, hcol, Nat.mod_add_mod]
  exact Nat.mod_eq_of_lt (by omega)

lemma entries_index (h : size.toNat * size.toNat < Spin.maxLength) (a : Matrix size.toNat)
    (row col : Fin size.toNat) :
    a.entries[(row.val.toUInt64 * size + col.val.toUInt64).toNat]? = some a[row][col] := by
  have hpos : 0 < size.toNat := row.pos
  rw [toNat_index h]
  unfold entries
  rw [Array.getElem?_eq_getElem (by simpa using index_lt row col)]
  simp [Vector.getElem_flatten, Nat.mul_comm row.val, Nat.mul_add_div hpos,
    Nat.mod_eq_of_lt, Nat.div_eq_of_lt]

/-- Laid out flat, every entry is found where it is looked for. -/
lemma cell?_entries (h : size.toNat * size.toNat < Spin.maxLength) (a b : Matrix size.toNat)
    (row col : Fin size.toNat) :
    cell? size a.entries b.entries row.val.toUInt64 col.val.toUInt64 = some (cell a b row col) := by
  unfold cell? cell
  rw [← List.map_coe_finRange_eq_range, List.foldlM_map, Fin.foldl_eq_finRange_foldl]
  simp only [entries_index h, Option.bind_eq_bind, Option.bind_some]
  rw [List.foldlM_pure]
  rfl

end Matrix

/-! ### Steps that need no list -/

namespace Spin

variable {α β : Type} {x : Spin α} {f : α → Spin β} {chance : Chance} {meter : Meter}

/-- Whatever happens, no list is asked for that is too long. -/
def Fitting (x : Spin α) : Prop := ∀ chance meter, (x chance meter).1 ≠ .error .oversized

lemma bind_eq_error_iff {e : Interruption} : ((x >>= f) chance meter).1 = .error e ↔
    (x chance meter).1 = .error e ∨
      ∃ a, (x chance meter).1 = .ok a ∧ (f a chance (x chance meter).2).1 = .error e := by
  rw [Draw.except_bind_apply]
  cases (x chance meter).1 <;> simp

lemma fitting_pure (a : α) : Fitting (pure a : Spin α) := by
  intro chance meter h
  cases h

lemma fitting_liftM (d : Draw α) : Fitting (liftM d : Spin α) := by
  intro chance meter h
  cases h

lemma Fitting.bind (hx : Fitting x) (hf : ∀ a, Fitting (f a)) : Fitting (x >>= f) := by
  intro chance meter h
  rcases bind_eq_error_iff.1 h with h | ⟨a, -, h⟩
  · exact hx chance meter h
  · exact hf a chance _ h

lemma fitting_closed : Closed fun x : Spin _ => Fitting x where
  pure a := fitting_pure a
  bind hx hf := hx.bind hf

lemma checkpoint_fitting : Fitting checkpoint := by
  intro chance meter h
  simp only [checkpoint] at h
  split at h <;> cases h

lemma reserve_eq_oversized_iff {length : Nat} :
    (reserve length chance meter).1 = .error .oversized ↔ ¬length < maxLength := by
  unfold reserve
  split
  case isTrue h => simpa [h] using fitting_pure () chance meter
  case isFalse h => exact iff_of_true rfl h

/-- Where nothing that follows asks for a list, only the first step counts. -/
lemma bind_eq_oversized_iff (hf : ∀ a, Fitting (f a)) :
    ((x >>= f) chance meter).1 = .error .oversized ↔ (x chance meter).1 = .error .oversized := by
  rw [bind_eq_error_iff, or_iff_left]
  rintro ⟨a, -, h⟩
  exact hf a chance _ h

end Spin

open Spin (Fitting fitting_pure fitting_liftM fitting_closed checkpoint_fitting)

lemma Primes.upward_eq_oversized_iff {floor count : UInt64} {chance : Chance} {meter : Meter} :
    (upward floor count chance meter).1 = .error .oversized ↔ ¬count.toNat < Spin.maxLength := by
  have hsearch : Fitting (search count.toNat [] floor) :=
    search_closed fitting_closed checkpoint_fitting _ _ _
  exact (Spin.bind_eq_oversized_iff fun _ => hsearch).trans Spin.reserve_eq_oversized_iff

lemma Matrix.burn_eq_oversized_iff {size rounds : Nat} {chance : Chance} {meter : Meter} :
    (burn size rounds chance meter).1 = .error .oversized ↔
      rounds ≠ 0 ∧ ¬size * size < Spin.maxLength := by
  unfold burn
  split
  case isTrue h =>
    apply iff_of_false
    · exact fitting_pure () chance meter
    · rintro ⟨hrounds, hsize⟩
      rw [h.resolve_right hrounds] at hsize
      exact hsize (by decide)
  case isFalse h =>
    rw [Spin.bind_eq_oversized_iff, Spin.reserve_eq_oversized_iff]
    · exact (and_iff_right fun hrounds => h (Or.inr hrounds)).symm
    · intro _
      apply (fitting_liftM (random size)).bind
      intro a
      apply (fitting_liftM (random size)).bind
      intro b
      have hproducts : Fitting (rounds.foldM (fun _ _ a => product a b) a) :=
        products_graded fitting_closed.graded checkpoint_fitting rounds a b
      exact hproducts.bind fun _ => fitting_pure ()

/-! ### Whole spins -/

/-- The primes that are searched fit in a list. -/
def HeavySettings.PrimesFit (h : HeavySettings) : Prop := h.primeCount.toNat < Spin.maxLength

/-- The entries of the matrices, if any are multiplied, fit in a list. -/
def HeavySettings.MatricesFit (h : HeavySettings) : Prop :=
  h.matrixRounds ≠ 0 → h.matrixSize.toNat * h.matrixSize.toNat < Spin.maxLength

namespace Engine

variable (e : Engine)

/-- What follows on the primes and the matrices needs no more lists. -/
lemma spinHeavy_eq_oversized_iff {chance : Chance} {meter : Meter} :
    (e.spinHeavy chance meter).1 = .error .oversized ↔
      ¬e.heavy.PrimesFit ∨
        ∃ primes,
          (Primes.upward e.heavy.primeFloor e.heavy.primeCount chance meter).1 = .ok primes ∧
          ¬e.heavy.MatricesFit := by
  rw [spinHeavy_eq, Spin.bind_eq_oversized_iff (e.finish_closed fitting_closed fitting_liftM),
    heavyDraft, Spin.bind_eq_error_iff, Primes.upward_eq_oversized_iff]
  apply or_congr Iff.rfl
  apply exists_congr
  intro primes
  apply and_congr_right
  intro _
  have hdraft : Fitting (e.draftOf primes) :=
    e.draftOf_closed fitting_closed checkpoint_fitting primes
  rw [Spin.bind_eq_oversized_iff fun _ => hdraft, Matrix.burn_eq_oversized_iff]
  simp [HeavySettings.MatricesFit, ← UInt32.toNat_inj]

lemma spin_of_normal {strategy : Strategy} (h : e.resolve strategy = .normal) (chance : Chance)
    (meter : Meter) : e.spin strategy chance meter =
      (.ok (e.spinNormal chance meter).1, (e.spinNormal chance meter).2) := by
  rw [spin, h]
  rfl

/-- A spin comes to an outcome or is cancelled, unless the heavy strategy asks for a list of primes
that is too long, or finds its primes and then asks for matrices that are too large. Where matrices
are multiplied that fit, all the entries that a product needs are found by indices in words. -/
theorem spin_ends_iff (strategy : Strategy) (chance : Chance) (meter : Meter) :
    ((∃ o, (e.spin strategy chance meter).1 = .ok o) ∨
        (e.spin strategy chance meter).1 = .error .cancelled ↔
      (e.resolve strategy = .heavy → e.heavy.PrimesFit ∧
        (e.heavy.MatricesFit ∨
          (Primes.upward e.heavy.primeFloor e.heavy.primeCount chance meter).1 =
            .error .cancelled))) ∧
    (e.heavy.matrixRounds ≠ 0 → e.heavy.MatricesFit →
      ∀ (a b : Matrix e.heavy.matrixSize.toNat) row col,
        Matrix.cell? e.heavy.matrixSize a.entries b.entries row.val.toUInt64 col.val.toUInt64 =
          some (Matrix.cell a b row col)) := by
  constructor
  · have hends : ((∃ o, (e.spin strategy chance meter).1 = .ok o) ∨
        (e.spin strategy chance meter).1 = .error .cancelled) ↔
        (e.spin strategy chance meter).1 ≠ .error .oversized := by
      rcases (e.spin strategy chance meter).1 with (_ | _) | o
      · simp
      · simp
      · simp
    rw [hends]
    unfold spin
    cases e.resolve strategy with
    | normal => simpa using fitting_liftM e.spinNormal chance meter
    | heavy =>
      have hprimes : e.heavy.PrimesFit ↔
          (Primes.upward e.heavy.primeFloor e.heavy.primeCount chance meter).1 ≠
            .error .oversized := by
        rw [ne_eq, Primes.upward_eq_oversized_iff, not_not]
        rfl
      dsimp only
      rw [ne_eq, e.spinHeavy_eq_oversized_iff, hprimes]
      rcases (Primes.upward e.heavy.primeFloor e.heavy.primeCount chance meter).1 with
        (_ | _) | primes
      · simp
      · simp
      · simp
  · intro hrounds hfit a b row col
    exact Matrix.cell?_entries (hfit hrounds) a b row col

/-- Settings that search no primes, apart from the list that they ask for, and multiply matrices of
this size once. -/
def idleSettings (primeCount matrixSize : UInt64) : HeavySettings where
  primeFloor := Primes.lastWord
  primeCount
  iterations := 1
  matrixSize
  matrixRounds := 1

/-- Neither setting has an upper limit: engines are built that ask for a list of as many primes as
there cannot be, or for matrices with as many entries. -/
theorem spin_oversized_idle :
    (∃ e, (ofTable .reference 0.3).bind (·.withHeavy (idleSettings 0x1000000000000000 2)) = .ok e ∧
      ∀ chance meter, (e.spin .heavy chance meter).1 = .error .oversized) ∧
    ∃ e, (ofTable .reference 0.3).bind (·.withHeavy (idleSettings 3 0x40000000)) = .ok e ∧
      (e.spin .heavy (.still 0) {}).1 = .error .oversized := by
  constructor
  · refine ⟨_, rfl, fun chance meter => ?_⟩
    apply (spinHeavy_eq_oversized_iff _).2
    left
    show ¬(0x1000000000000000 : UInt64).toNat < Spin.maxLength
    decide
  · refine ⟨_, rfl, ?_⟩
    apply (spinHeavy_eq_oversized_iff _).2
    refine Or.inr ⟨[], upward_lastWord 0 {}, fun h => ?_⟩
    have hfits : (0x40000000 : UInt64).toNat * (0x40000000 : UInt64).toNat < Spin.maxLength :=
      h (by decide)
    exact absurd hfits (by decide)

/-- An engine with matrices of two rows. -/
def idle : Engine :=
  { primeless with
    heavy := idleSettings 3 2
    three_le_primeCount := by decide
    iterations_ne_zero := by decide }

theorem spin_ends_iff_idle :
    idle.heavy.PrimesFit ∧ idle.heavy.MatricesFit ∧ idle.heavy.matrixRounds ≠ 0 ∧
    ((∃ o, (idle.spin .heavy (.still 0) {}).1 = .ok o) ∨
      (idle.spin .heavy (.still 0) {}).1 = .error .cancelled) ∧
    let a : Matrix 2 := #v[#v[1.0, 2.0], #v[3.0, 4.0]]
    Matrix.cell? 2 a.entries a.entries 1 0 = some (Matrix.cell a a 1 0) := by
  have hprimes : idle.heavy.PrimesFit := by
    show (3 : UInt64).toNat < Spin.maxLength
    decide
  have hmatrices : idle.heavy.MatricesFit := by
    intro _
    show (2 : UInt64).toNat * (2 : UInt64).toNat < Spin.maxLength
    decide
  have hrounds : idle.heavy.matrixRounds ≠ 0 := by decide
  obtain ⟨hends, hcells⟩ := idle.spin_ends_iff .heavy (.still 0) {}
  refine ⟨hprimes, hmatrices, hrounds, hends.2 fun _ => ⟨hprimes, Or.inl hmatrices⟩, ?_⟩
  exact hcells hrounds hmatrices #v[#v[1.0, 2.0], #v[3.0, 4.0]] #v[#v[1.0, 2.0], #v[3.0, 4.0]]
    (1 : Fin 2) (0 : Fin 2)

end Engine

end SlotMachine
