import SlotMachine.Proofs.Binary64.Products
import SlotMachine.Proofs.Decimal.Values
import SlotMachine.Proofs.Json.Decoding

/-!
# Amounts that are read at all

A number may be too large to be read, and the reader rounds twice on the way. What is written for a
finite double is always read as some double, though perhaps not as the same (`exists_float_node`).
The two roundings lead at most three steps up, so that only the four largest doubles are too close
to the overflow for that; these are looked at one by one.
-/

namespace SlotMachine

open Binary64

namespace NumberLiteral

/-! ### Digits of a word -/

/-- The value of the digits, if they follow a number. -/
def follow (n : Nat) (digits : List Char) : Nat :=
  digits.foldl (fun n c => 10 * n + digitValue c) n

variable {n : Nat} {digits : List Char}

lemma gather_lt (hn : n < UInt64.size) : (gather n digits).1 < UInt64.size := by
  induction digits generalizing n with
  | nil => exact hn
  | cons c digits ih =>
    unfold gather
    dsimp only
    split
    case isTrue hnext => exact ih hnext
    case isFalse => exact hn

lemma mul_le_follow (n : Nat) (digits : List Char) : n * 10 ^ digits.length ≤ follow n digits := by
  induction digits generalizing n with
  | nil => simp [follow]
  | cons c digits ih =>
    refine le_trans ?_ (ih (10 * n + digitValue c))
    rw [List.length_cons, Nat.pow_succ', ← Nat.mul_assoc]
    gcongr
    omega

/-- A word that leaves digits out does not stand for more. -/
lemma gather_mul_le (n : Nat) (digits : List Char) :
    (gather n digits).1 * 10 ^ (gather n digits).2.length ≤ follow n digits := by
  induction digits generalizing n with
  | nil => simp [gather, follow]
  | cons c digits ih =>
    unfold gather
    dsimp only
    split
    case isTrue => exact ih _
    case isFalse => exact mul_le_follow n _

lemma length_gather_le (n : Nat) (digits : List Char) :
    (gather n digits).2.length ≤ digits.length := by
  induction digits generalizing n with
  | nil => simp [gather]
  | cons c digits ih =>
    unfold gather
    dsimp only
    split
    case isTrue => exact (ih _).trans (Nat.le_succ _)
    case isFalse => exact le_rfl

lemma digitValue_lt {c : Char} (h : c.isDigit = true) : digitValue c < 10 := by
  simp only [Char.isDigit, Bool.and_eq_true, decide_eq_true_eq, UInt32.le_iff_toNat_le] at h
  have hhigh : c.toNat ≤ 57 := h.2
  have hzero : '0'.toNat = 48 := rfl
  rw [digitValue, hzero]
  omega

/-- A few digits fit a word. -/
lemma gather_of_le (hdigits : ∀ c ∈ digits, c.isDigit = true)
    (h : (n + 1) * 10 ^ digits.length ≤ UInt64.size) : gather n digits = (follow n digits, []) := by
  induction digits generalizing n with
  | nil => rfl
  | cons c digits ih =>
    have hc := digitValue_lt (hdigits c List.mem_cons_self)
    have hnext : (10 * n + digitValue c + 1) * 10 ^ digits.length ≤ UInt64.size := by
      refine le_trans ?_ h
      rw [List.length_cons, Nat.pow_succ', ← Nat.mul_assoc]
      gcongr
      omega
    have hlt : 10 * n + digitValue c < UInt64.size := by
      have hpow : 0 < 10 ^ digits.length := by positivity
      nlinarith
    unfold gather
    dsimp only
    rw [if_pos hlt]
    exact ih (fun c' hc' => hdigits c' (List.mem_cons_of_mem c hc')) hnext

/-! ### Words and powers of ten -/

/-- The power of ten that is written behind a number. -/
def writtenPower (n : NumberLiteral) : Int :=
  match n.exponent with
  | some (true, digits) => -(ofDigits digits : Int)
  | some (false, digits) => ofDigits digits
  | none => 0

/-- The word that the first digits of a number make up, and the power of ten that goes with it. -/
def scaled (n : NumberLiteral) : Nat × Int :=
  let (word, wholeLeft) := gather 0 n.whole
  let fraction := n.fraction.getD []
  let (word, fractionLeft) := gather word fraction
  (word, wholeLeft.length - (fraction.length - fractionLeft.length : Nat) + n.writtenPower)

lemma toFloat?_eq (n : NumberLiteral) :
    n.toFloat? = (scale? n.scaled.1.toUInt64.toFloat n.scaled.2).map
      fun x => if n.negative then -x else x := rfl

lemma scaled_lt (n : NumberLiteral) : n.scaled.1 < UInt64.size :=
  gather_lt (gather_lt (by decide))

/-- Where the digits before the point fit a word, only those behind it can be left out. -/
lemma scaled_eq (n : NumberLiteral) (hwhole : ∀ c ∈ n.whole, c.isDigit = true)
    (hlength : n.whole.length ≤ 16) :
    n.scaled = ((gather (follow 0 n.whole) (n.fraction.getD [])).1,
      ((gather (follow 0 n.whole) (n.fraction.getD [])).2.length : Int) -
        (n.fraction.getD []).length + n.writtenPower) := by
  have hsize : (0 + 1) * 10 ^ n.whole.length ≤ UInt64.size := by
    rw [Nat.zero_add, Nat.one_mul]
    exact (Nat.pow_le_pow_right (by decide) hlength).trans (by decide)
  have hle := length_gather_le (follow 0 n.whole) (n.fraction.getD [])
  unfold scaled
  rw [gather_of_le hwhole hsize]
  dsimp only
  rw [List.length_nil]
  congr 1
  omega

variable {negative : Bool} {point : Int}

/-- Without an exponent there is a power of ten only for the digits behind the point. -/
lemma scaled_positional_le (h : AreDigits digits) (hhead : digits.head? ≠ some '0')
    (hpoint : point ≤ 16) : (positional negative digits point).scaled.2 ≤ 0 := by
  have hproper : (positional negative digits point).Proper := proper_positional h hhead
  have hlength : (positional negative digits point).whole.length ≤ 16 := by
    unfold positional
    dsimp only
    split
    · simp
    · simp only [List.length_append, List.length_take, List.length_replicate]
      omega
  have hpower : (positional negative digits point).writtenPower = 0 := rfl
  have hle := length_gather_le (follow 0 (positional negative digits point).whole)
    ((positional negative digits point).fraction.getD [])
  rw [scaled_eq _ hproper.whole.2 hlength, hpower]
  dsimp only
  omega

lemma writtenPower_scientific :
    (scientific negative digits point).writtenPower = point - 1 := by
  have hdigits := ofDigits_toDigits (point - 1).natAbs
  by_cases hneg : point - 1 < 0
  · simp only [writtenPower, scientific, hneg, decide_true, hdigits]
    omega
  · simp only [writtenPower, scientific, hneg, decide_false, hdigits]
    omega

lemma scaled_scientific_le (negative : Bool) (point : Int) (h : AreDigits digits) :
    ((scientific negative digits point).scaled.1 : ℚ) *
        10 ^ (scientific negative digits point).scaled.2 ≤
      follow 0 digits * 10 ^ (point - digits.length) := by
  obtain ⟨c, rest, rfl⟩ := List.exists_cons_of_ne_nil h.1
  have hwhole : (scientific negative (c :: rest) point).whole = [c] := rfl
  have hfraction : (scientific negative (c :: rest) point).fraction.getD [] = rest := by
    cases rest <;> rfl
  have hle := gather_mul_le (follow 0 [c]) rest
  rw [scaled_eq _ (by simpa [hwhole] using h.2 c List.mem_cons_self) (by simp [hwhole]), hwhole,
    hfraction, writtenPower_scientific]
  dsimp only
  generalize gather (follow 0 [c]) rest = left at hle ⊢
  have hpower : (left.2.length : Int) - rest.length + (point - 1) =
      left.2.length + (point - (c :: rest).length) := by
    rw [List.length_cons]
    omega
  rw [hpower, zpow_add₀ (by norm_num), zpow_natCast, ← mul_assoc]
  gcongr
  exact_mod_cast hle

/-- What is multiplied out does not exceed the decimal, unless it is a word alone. -/
lemma scaled_ofDecimal (negative : Bool) {d : Decimal} (h : d.digits ≠ 0) :
    (ofDecimal negative d).scaled.2 ≤ 0 ∨
      ((ofDecimal negative d).scaled.1 : ℚ) * 10 ^ (ofDecimal negative d).scaled.2 ≤ d.value := by
  have hdigits := areDigits_toDigits d.digits
  unfold ofDecimal
  dsimp only
  split
  case isTrue hpoint =>
    have hle : ((Nat.toDigits 10 d.digits).length : Int) + d.power ≤ 16 := by
      simp only [NumberLayout.record, Bool.and_eq_true, decide_eq_true_eq] at hpoint
      exact hpoint.2
    exact Or.inl (scaled_positional_le hdigits (head?_toDigits_ne_zero h) hle)
  case isFalse =>
    right
    have hle := scaled_scientific_le negative ((Nat.toDigits 10 d.digits).length + d.power) hdigits
    have hvalue : follow 0 (Nat.toDigits 10 d.digits) = d.digits := ofDigits_toDigits d.digits
    rw [hvalue, add_sub_cancel_left] at hle
    exact hle

/-! ### Powers of ten -/

lemma magnitude_powerOfTen_le : ∀ power : Fin 309, (powerOfTen power).isFinite = true ∧
    (magnitude (powerOfTen power)).mantissa * 2 ^ (magnitude (powerOfTen power)).exponent.toNat *
        2 ^ 53 ≤
      10 ^ power.val * 2 ^ (-(magnitude (powerOfTen power)).exponent).toNat * (2 ^ 53 + 1) := by
  decide +kernel

lemma isFinite_powerOfTen {power : Nat} (h : power ≤ 308) : (powerOfTen power).isFinite = true :=
  (magnitude_powerOfTen_le ⟨power, by omega⟩).1

/-- A power of ten is rounded by half a step at most. -/
lemma size_powerOfTen_le {power : Nat} (h : power ≤ 308) :
    size (unpacked (powerOfTen power)) ≤ 10 ^ power * (1 + 1 / 2 ^ 53) := by
  have hle := (magnitude_powerOfTen_le ⟨power, by omega⟩).2
  dsimp only at hle
  rw [← value_magnitude (isFinite_powerOfTen h)]
  generalize magnitude (powerOfTen power) = m at hle ⊢
  have hcast : (m.mantissa : ℚ) * 2 ^ m.exponent.toNat * 2 ^ 53 ≤
      10 ^ power * 2 ^ (-m.exponent).toNat * (2 ^ 53 + 1) := by exact_mod_cast hle
  rw [← Decimal.zpow_mul_pow_toNat_neg two_ne_zero m.exponent] at hcast
  have hpos : (0 : ℚ) < 2 ^ (-m.exponent).toNat := by positivity
  refine le_of_mul_le_mul_right ?_ hpos
  rw [Magnitude.value]
  linarith

lemma isSome_scale?_of_neg (x : Float) {power : Int} (h : power < 0) :
    (scale? x power).isSome = true := by
  fun_induction scale? x power with
  | case1 => rfl
  | case2 => omega
  | case3 => omega
  | case4 => omega
  | case5 => rfl
  | case6 => rfl
  | case7 x power _ _ _ _ ih => exact ih (by omega)

/-- Four of the largest steps below the overflow. -/
def margin : ℚ := (2 ^ 54 - 9) * 2 ^ (970 : ℤ)

lemma margin_lt : margin < 10 ^ 309 := by
  have hpow : (2 : ℚ) ^ 1024 < 10 ^ 309 := by
    have hlt : 2 ^ 1024 < 10 ^ 309 := by decide +kernel
    exact_mod_cast hlt
  calc margin ≤ 2 ^ (54 : ℤ) * 2 ^ (970 : ℤ) := by
        unfold margin
        gcongr
        norm_num
    _ = 2 ^ 1024 := by
        rw [← zpow_add₀ two_ne_zero]
        exact zpow_natCast 2 1024
    _ < 10 ^ 309 := hpow

/-- Two roundings do not lead from the margin to the overflow. -/
lemma rounded_margin_lt : margin * ((1 + 1 / 2 ^ 52) * (1 + 1 / 2 ^ 53)) < overflow := by
  unfold margin overflow
  rw [mul_right_comm]
  gcongr
  norm_num

lemma isFinite_product {word p : Nat} (hword : word < UInt64.size) (hp : p ≤ 308)
    (hle : (word : ℚ) * 10 ^ p ≤ margin) :
    (word.toUInt64.toFloat * powerOfTen p).isFinite = true := by
  have hn : word.toUInt64.toNat = word := UInt64.toNat_ofNat_of_lt' hword
  have hfin : word.toUInt64.toFloat.isFinite = true := by
    rw [isFinite_eq, unpacked_toFloat64, hn]
    exact isFinite_whole hword
  have hsize : size (unpacked word.toUInt64.toFloat) ≤ word * (1 + 1 / 2 ^ 52) := by
    rw [unpacked_toFloat64, hn]
    exact size_whole_le hword
  have hpower := size_powerOfTen_le hp
  rw [isFinite_mul_iff hfin (isFinite_powerOfTen hp)]
  calc _ ≤ (word : ℚ) * (1 + 1 / 2 ^ 52) * (10 ^ p * (1 + 1 / 2 ^ 53)) :=
        mul_le_mul hsize hpower (size_nonneg _) (by positivity)
    _ = (word : ℚ) * 10 ^ p * ((1 + 1 / 2 ^ 52) * (1 + 1 / 2 ^ 53)) := by ring
    _ ≤ margin * ((1 + 1 / 2 ^ 52) * (1 + 1 / 2 ^ 53)) := by gcongr
    _ < overflow := rounded_margin_lt

/-- No word but zero stays within the margin with a larger power of ten. -/
lemma eq_zero_of_mul_le_margin {word p : Nat} (hp : 308 < p)
    (hle : (word : ℚ) * 10 ^ p ≤ margin) : word = 0 := by
  by_contra hne
  have hone : (1 : ℚ) ≤ word := by exact_mod_cast Nat.pos_of_ne_zero hne
  have hpow : (10 : ℚ) ^ 309 ≤ 10 ^ p := pow_le_pow_right₀ (by norm_num) hp
  have hword := le_mul_of_one_le_left (by positivity : (0 : ℚ) ≤ 10 ^ p) hone
  exact absurd margin_lt (not_lt.2 (hpow.trans (hword.trans hle)))

/-- What stays within the margin is read. -/
lemma isSome_scale? {word : Nat} {power : Int} (hword : word < UInt64.size)
    (h : 0 ≤ power → (word : ℚ) * 10 ^ power ≤ margin) :
    (scale? word.toUInt64.toFloat power).isSome = true := by
  rcases lt_or_ge power 0 with hneg | hpos
  · exact isSome_scale?_of_neg _ hneg
  · obtain ⟨p, rfl⟩ := Int.eq_ofNat_of_zero_le hpos
    have hle := h hpos
    rw [zpow_natCast] at hle
    by_cases hlarge : 308 < p
    · have hbeq : ((Nat.toUInt64 0).toFloat == 0.0) = true := rfl
      rw [eq_zero_of_mul_le_margin hlarge hle, scale?, if_pos (by omega), if_pos hbeq]
      rfl
    · have hfin := isFinite_product hword (Nat.le_of_not_lt hlarge) hle
      rw [scale?, if_neg (by omega), if_pos (by omega), Int.toNat_natCast]
      dsimp only
      rw [isInf_of_isFinite hfin]
      rfl

/-! ### Finite doubles -/

/-- The four largest doubles are read. -/
lemma largest_read : ∀ (i : Fin 4) (negative : Bool),
    let n := ofDecimal negative (Decimal.shortest .toEven ⟨2 ^ 53 - 1 - i, 971⟩)
    n.scaled.2 = 292 ∧ (n.scaled.1.toUInt64.toFloat * powerOfTen 292).isInf = false := by
  decide +kernel

lemma half_step_le_margin {m : Magnitude} (h : Fits m.mantissa m.exponent)
    (hm : m.exponent = 971 → m.mantissa + 5 ≤ 2 ^ 53) :
    ((m.mantissa : ℚ) + 1 / 2) * 2 ^ m.exponent ≤ margin := by
  have hlt := h.mantissa_lt
  have hexponent := h.exponent_le
  by_cases hlast : m.exponent = 971
  · have hle : (m.mantissa : ℚ) + 5 ≤ 2 ^ 53 := by exact_mod_cast hm hlast
    rw [hlast, show (971 : ℤ) = 1 + 970 from rfl, zpow_add₀ two_ne_zero, ← mul_assoc, margin]
    gcongr
    linarith
  · have hle : (m.mantissa : ℚ) + 1 ≤ 2 ^ 53 := by exact_mod_cast hlt
    have hpow : (2 : ℚ) ^ m.exponent ≤ 2 ^ (970 : ℤ) :=
      zpow_le_zpow_right₀ one_le_two (by omega)
    exact mul_le_mul (by linarith) hpow (by positivity) (by norm_num)

lemma le_margin {n : Nat} (h : n ≤ 2 ^ 1023) : (n : ℚ) ≤ margin :=
  calc (n : ℚ) ≤ 2 ^ 1023 := by exact_mod_cast h
    _ = 2 ^ (53 : ℤ) * 2 ^ (970 : ℤ) := by
        rw [← zpow_add₀ two_ne_zero]
        exact (zpow_natCast 2 1023).symm
    _ ≤ margin := by
        unfold margin
        gcongr
        norm_num

lemma isSome_toFloat?_ofDecimal {m : Magnitude} (h : Fits m.mantissa m.exponent)
    (hm : m.mantissa ≠ 0) (negative : Bool) :
    (ofDecimal negative (Decimal.shortest .toEven m)).toFloat?.isSome = true := by
  rw [toFloat?_eq, Option.isSome_map]
  by_cases hlargest : m.exponent = 971 ∧ 2 ^ 53 - 4 ≤ m.mantissa
  · have hlt := h.mantissa_lt
    obtain ⟨mantissa, exponent⟩ := m
    dsimp only at hlt hlargest
    obtain ⟨rfl, hle⟩ := hlargest
    obtain ⟨i, hi⟩ : ∃ i : Fin 4, mantissa = 2 ^ 53 - 1 - i :=
      ⟨⟨2 ^ 53 - 1 - mantissa, by omega⟩, by dsimp only; omega⟩
    subst hi
    obtain ⟨hpower, hproduct⟩ := largest_read i negative
    rw [hpower, scale?, if_neg (by decide), if_pos (by decide)]
    dsimp only
    rw [show (292 : ℤ).toNat = 292 from rfl, hproduct]
    rfl
  · have hvalue : (Decimal.shortest .toEven m).value ≤ margin := by
      apply Decimal.value_shortest_le h
      · exact half_step_le_margin h (by omega)
      · have hpower : 2 ^ 55 * 10 ^ 279 ≤ 2 ^ 1023 := by decide +kernel
        exact_mod_cast le_margin hpower
    apply isSome_scale? (scaled_lt _)
    intro hpos
    rcases scaled_ofDecimal negative (Decimal.shortest_ne_zero hm) with hle | hle
    · have hpower := le_antisymm hle hpos
      rw [hpower, zpow_zero, mul_one]
      exact le_margin ((scaled_lt _).le.trans (by decide +kernel))
    · exact hle.trans hvalue

lemma isSome_toFloat?_ofFloat {x : Float} (h : x.isFinite = true) :
    (ofFloat x).toFloat?.isSome = true := by
  unfold ofFloat
  dsimp only
  split
  case isTrue =>
    rw [toFloat?_eq, Option.isSome_map]
    exact isSome_scale?_of_neg _ (by decide : (-1 : ℤ) < 0)
  case isFalse hm => exact isSome_toFloat?_ofDecimal (fits_magnitude h) hm _

lemma value?_scientific :
    (scientific negative digits point).value? =
      (scientific negative digits point).toFloat?.map .float := by
  unfold value?
  split
  case h_1 hexponent => cases hexponent
  case h_2 => rfl

lemma value?_ofFloat (x : Float) : (ofFloat x).value? = (ofFloat x).toFloat?.map .float := by
  unfold ofFloat ofDecimal
  dsimp only
  split
  · rfl
  · split
    · rfl
    · exact value?_scientific

end NumberLiteral

namespace Json

/-- What is written for a finite double is read as a double. -/
lemma exists_float_node {x : Float} (h : x.isFinite = true) (room : Nat) :
    ∃ y, Decoder.float room (float x).node = .ok y := by
  obtain ⟨y, hy⟩ := Option.isSome_iff_exists.1 (NumberLiteral.isSome_toFloat?_ofFloat h)
  refine ⟨y, ?_⟩
  rw [node, if_pos h]
  simp only [Decoder.float, NumberLiteral.value?_ofFloat, hy]
  rfl

end Json

end SlotMachine
