import SlotMachine.Json.Syntax
import SlotMachine.Json.Text
import SlotMachine.Proofs.Decimal.Digits

/-!
# Numbers in JSON texts

A number that is written, followed by anything that does not go on with it, is read as the literal
it is made of (`readNumber?_chars`). Whole numbers and doubles are written as such literals; a whole
number of at most 64 bits also keeps its value.
-/

namespace SlotMachine

open Json

namespace Source

@[simp] lemma ofString_append (s t : String) : ofString (s ++ t) = ofString s ++ ofString t := by
  simp [ofString]

@[simp] lemma length_ofString (s : String) : (ofString s).length = s.length := by
  simp [ofString, String.length_toList]

end Source

namespace Json

/-- A number does not go on here. -/
def Stops (rest : Source) : Prop :=
  ∀ c, rest.head? = some (some c) → c.isDigit = false ∧ c ≠ '.' ∧ c ≠ 'e' ∧ c ≠ 'E'

section

variable {ds : List Char} {rest : Source}

lemma takeDigits_append (hd : ∀ c ∈ ds, c.isDigit = true)
    (hrest : ∀ c, rest.head? = some (some c) → c.isDigit = false) :
    takeDigits (ds.map some ++ rest) = (ds, rest) := by
  induction ds with
  | nil =>
    match rest with
    | [] => rfl
    | none :: _ => rfl
    | some c :: _ => simp [takeDigits, hrest c rfl]
  | cons c ds ih =>
    have hc := hd c List.mem_cons_self
    simp [takeDigits, hc, ih fun c' hc' => hd c' (List.mem_cons_of_mem c hc')]

lemma takeDigits?_append (hd : AreDigits ds)
    (hrest : ∀ c, rest.head? = some (some c) → c.isDigit = false) :
    takeDigits? (ds.map some ++ rest) = some (ds, rest) := by
  unfold takeDigits?
  rw [takeDigits_append hd.2 hrest]
  split
  case h_1 h => exact absurd (congrArg Prod.fst h) hd.1
  case h_2 h => cases h; rfl

end

end Json

namespace NumberLiteral

/-- How a fraction is written. -/
def fractionChars : Option (List Char) → List Char
  | some digits => '.' :: digits
  | none => []

/-- How an exponent is written, always with its sign. -/
def exponentChars : Option (Bool × List Char) → List Char
  | some (negative, digits) => 'e' :: (if negative then '-' else '+') :: digits
  | none => []

/-- How a number is written. -/
def chars (n : NumberLiteral) : List Char :=
  (if n.negative then ['-'] else []) ++ n.whole ++ fractionChars n.fraction ++
    exponentChars n.exponent

/-- All parts that are there have digits, and the whole part has no needless zero. -/
structure Proper (n : NumberLiteral) : Prop where
  whole : AreDigits n.whole
  whole_head : n.whole.head? = some '0' → n.whole = ['0']
  fraction : ∀ digits ∈ n.fraction, AreDigits digits
  exponent : ∀ e ∈ n.exponent, AreDigits e.2

variable {fraction : Option (List Char)} {exponent : Option (Bool × List Char)} {rest : Source}

lemma readExponent?_append (h : ∀ e ∈ exponent, AreDigits e.2) (hrest : Stops rest) :
    readExponent? ((exponentChars exponent).map some ++ rest) = some (exponent, rest) := by
  cases exponent with
  | none =>
    match rest with
    | [] => rfl
    | none :: _ => rfl
    | some c :: _ =>
      obtain ⟨-, -, he, hE⟩ := hrest c rfl
      simp [exponentChars, readExponent?, he, hE]
  | some e =>
    obtain ⟨negative, digits⟩ := e
    have hdigits := takeDigits?_append (h _ rfl) fun c hc => (hrest c hc).1
    cases negative
    · simp [exponentChars, readExponent?, readExponent?.signed, hdigits]
    · simp [exponentChars, readExponent?, readExponent?.signed, hdigits]

/-- Neither digits nor a fraction go on where an exponent may stand. -/
lemma head?_exponentChars (hrest : Stops rest) {c : Char}
    (hc : ((exponentChars exponent).map some ++ rest).head? = some (some c)) :
    c.isDigit = false ∧ c ≠ '.' := by
  cases exponent with
  | none => exact ⟨(hrest c hc).1, (hrest c hc).2.1⟩
  | some e =>
    cases hc
    decide

lemma readFraction?_append (h : ∀ digits ∈ fraction, AreDigits digits)
    (hrest : ∀ c, rest.head? = some (some c) → c.isDigit = false ∧ c ≠ '.') :
    readFraction? ((fractionChars fraction).map some ++ rest) = some (fraction, rest) := by
  cases fraction with
  | none =>
    simp only [fractionChars, List.map_nil, List.nil_append, readFraction?]
    split
    case h_1 => exact absurd rfl (hrest '.' rfl).2
    case h_2 => rfl
  | some digits =>
    have hdigits := takeDigits?_append (h _ rfl) fun c hc => (hrest c hc).1
    simp [fractionChars, readFraction?, hdigits]

lemma head?_fractionChars (hrest : ∀ c, rest.head? = some (some c) → c.isDigit = false) {c : Char}
    (hc : ((fractionChars fraction).map some ++ rest).head? = some (some c)) :
    c.isDigit = false := by
  cases fraction with
  | none => exact hrest c hc
  | some digits =>
    cases hc
    decide

lemma readWhole?_append {digits : List Char} (h : AreDigits digits)
    (hhead : digits.head? = some '0' → digits = ['0'])
    (hrest : ∀ c, rest.head? = some (some c) → c.isDigit = false) :
    readWhole? (digits.map some ++ rest) = some (digits, rest) := by
  by_cases hzero : digits.head? = some '0'
  · rw [hhead hzero]
    match rest with
    | [] => rfl
    | none :: _ => rfl
    | some c :: _ => simp [readWhole?, isDigit, hrest c rfl]
  · have htake := takeDigits?_append h hrest
    obtain ⟨c, digits, rfl⟩ := List.exists_cons_of_ne_nil h.1
    unfold readWhole?
    split
    case h_1 heq => cases heq; exact absurd rfl hzero
    case h_2 => exact htake

/-- A number that is written is read back, part by part. -/
lemma readNumber?_chars {n : NumberLiteral} (h : n.Proper) (hrest : Stops rest) :
    readNumber? (n.chars.map some ++ rest) = some (n, rest) := by
  obtain ⟨negative, whole, fraction, exponent⟩ := n
  let afterFraction := (exponentChars exponent).map some ++ rest
  let afterWhole := (fractionChars fraction).map some ++ afterFraction
  have hexponent : readExponent? afterFraction = some (exponent, rest) :=
    readExponent?_append h.exponent hrest
  have hfraction : readFraction? afterWhole = some (fraction, afterFraction) :=
    readFraction?_append h.fraction fun c hc => head?_exponentChars hrest hc
  have hwhole : readWhole? (whole.map some ++ afterWhole) = some (whole, afterWhole) := by
    apply readWhole?_append h.whole h.whole_head
    intro c hc
    exact head?_fractionChars (fun c hc => (head?_exponentChars hrest hc).1) hc
  have hchars : (⟨negative, whole, fraction, exponent⟩ : NumberLiteral).chars.map some ++ rest =
      (if negative then [some '-'] else []) ++ (whole.map some ++ afterWhole) := by
    cases negative <;> simp [chars, afterWhole, afterFraction]
  rw [hchars]
  cases negative with
  | true => simp [readNumber?, hwhole, hfraction, hexponent]
  | false =>
    -- the first digit is no sign
    obtain ⟨c, digits, rfl⟩ := List.exists_cons_of_ne_nil h.whole.1
    have hc : c ≠ '-' := by
      rintro rfl
      exact absurd (h.whole.2 '-' List.mem_cons_self) (by decide)
    rw [List.map_cons, List.cons_append] at hwhole
    simp [readNumber?, hc, hwhole, hfraction, hexponent]

/-- A number starts with its sign or with a digit. -/
lemma head_chars {n : NumberLiteral} (h : n.Proper) :
    ∃ c cs, n.chars = c :: cs ∧ (c = '-' ∨ c.isDigit = true) := by
  obtain ⟨c, cs, hcs⟩ := List.exists_cons_of_ne_nil h.whole.1
  have hc : c.isDigit = true := h.whole.2 c (by simp [hcs])
  cases hn : n.negative with
  | true => exact ⟨'-', _, by simp [chars, hn]; rfl, Or.inl rfl⟩
  | false => exact ⟨c, _, by simp [chars, hn, hcs]; rfl, Or.inr hc⟩

/-! ### Whole numbers -/

/-- The number `-n` or `n`. -/
def ofNat (negative : Bool) (n : Nat) : NumberLiteral where
  negative
  whole := Nat.toDigits 10 n
  fraction := none
  exponent := none

/-- A whole number as it is written. -/
def ofInt : Int → NumberLiteral
  | .ofNat n => ofNat false n
  | .negSucc n => ofNat true (n + 1)

lemma toDigits_head (n : Nat) (h : (Nat.toDigits 10 n).head? = some '0') :
    Nat.toDigits 10 n = ['0'] := by
  by_cases hn : n = 0
  · subst hn
    rfl
  · exact absurd h (head?_toDigits_ne_zero hn)

lemma proper_ofNat (negative : Bool) (n : Nat) : (ofNat negative n).Proper where
  whole := areDigits_toDigits n
  whole_head := toDigits_head n
  fraction := by simp [ofNat]
  exponent := by simp [ofNat]

lemma proper_ofInt (i : Int) : (ofInt i).Proper := by
  cases i with
  | ofNat n => exact proper_ofNat false n
  | negSucc n => exact proper_ofNat true (n + 1)

lemma toList_toString_int (i : Int) : (toString i).toList = (ofInt i).chars := by
  cases i with
  | ofNat n =>
    show (toString n).toList = _
    simp [ofInt, ofNat, chars, fractionChars, exponentChars]
  | negSucc n =>
    show ("-" ++ toString (n + 1)).toList = _
    simp [ofInt, ofNat, chars, fractionChars, exponentChars]

lemma ofDigits_toDigits (n : Nat) : ofDigits (Nat.toDigits 10 n) = n :=
  Nat.ofDigitChars_ten_toDigits

/-- A whole number that fits a word keeps its value. -/
lemma value?_ofInt {i : Int} (hlow : -(UInt64.size / 2 : Nat) ≤ i) (hhigh : i < UInt64.size) :
    (ofInt i).value? = some (.int i) := by
  cases i with
  | ofNat n =>
    have hn : n < UInt64.size := Int.ofNat_lt.1 hhigh
    simp [ofInt, ofNat, value?, ofDigits_toDigits, hn]
  | negSucc n =>
    have hn : n + 1 ≤ UInt64.size / 2 := by omega
    simp [ofInt, ofNat, value?, ofDigits_toDigits, hn, Int.negSucc_eq]

/-- With a few digits after the point there is one division. -/
lemma scale?_of_neg {x : Float} {power : Int} (hlow : -308 ≤ power) (hneg : power < 0) :
    scale? x power = some (x / powerOfTen (-power).toNat) := by
  rw [scale?, if_neg (by omega), if_neg (by omega), if_pos hlow]

/-! ### Doubles -/

/-- Digits with the point after the first `point` of them. -/
def positional (negative : Bool) (digits : List Char) (point : Int) : NumberLiteral where
  negative
  whole := if point ≤ 0 then ['0']
    else digits.take point.toNat ++ List.replicate (point - digits.length).toNat '0'
  fraction :=
    let fraction := List.replicate (-point).toNat '0' ++ digits.drop point.toNat
    some (if fraction.isEmpty then ['0'] else fraction)
  exponent := none

/-- One digit before the point, and the power of ten that puts it after `point` of them. -/
def scientific (negative : Bool) (digits : List Char) (point : Int) : NumberLiteral where
  negative
  whole := digits.take 1
  fraction := if (digits.drop 1).isEmpty then none else some (digits.drop 1)
  exponent := some (decide (point - 1 < 0), Nat.toDigits 10 (point - 1).natAbs)

/-- A decimal as it is written in records. -/
def ofDecimal (negative : Bool) (d : Decimal) : NumberLiteral :=
  let digits := Nat.toDigits 10 d.digits
  let point : Int := digits.length + d.power
  if NumberLayout.record.positional point then positional negative digits point
  else scientific negative digits point

/-- A finite double as it is written in records. -/
def ofFloat (x : Float) : NumberLiteral :=
  let m := Binary64.magnitude x
  if m.mantissa = 0 then ⟨Binary64.isNegative x, ['0'], some ['0'], none⟩
  else ofDecimal (Binary64.isNegative x) (Decimal.shortest .toEven m)

section

variable {digits : List Char} {point : Int} {negative : Bool}

lemma proper_positional (h : AreDigits digits) (hhead : digits.head? ≠ some '0') :
    (positional negative digits point).Proper where
  whole := by
    by_cases hpoint : point ≤ 0
    · simp only [positional, hpoint, if_true]
      exact areDigits_toDigits 0
    · simp only [positional, hpoint, if_false]
      apply AreDigits.append
      · refine ⟨?_, fun c hc => h.2 c (List.mem_of_mem_take hc)⟩
        simp only [ne_eq, List.take_eq_nil_iff, not_or]
        exact ⟨by omega, h.1⟩
      · exact fun c hc => isDigit_of_mem_replicate hc
  whole_head := by
    by_cases hpoint : point ≤ 0
    · simp [positional, hpoint]
    · obtain ⟨c, cs, rfl⟩ := List.exists_cons_of_ne_nil h.1
      obtain ⟨n, hn⟩ : ∃ n, point.toNat = n + 1 := ⟨point.toNat - 1, by omega⟩
      simp only [positional, hpoint, if_false, hn, List.take_succ_cons, List.cons_append,
        List.head?_cons]
      exact fun hc => absurd hc hhead
  fraction := by
    simp only [positional, Option.mem_some_iff, forall_eq']
    split
    case isTrue => exact areDigits_toDigits 0
    case isFalse hne =>
      refine ⟨by simpa using hne, fun c hc => ?_⟩
      rcases List.mem_append.1 hc with hc | hc
      · exact isDigit_of_mem_replicate hc
      · exact h.2 c (List.mem_of_mem_drop hc)
  exponent := by simp [positional]

lemma proper_scientific (h : AreDigits digits) (hhead : digits.head? ≠ some '0') :
    (scientific negative digits point).Proper where
  whole := by
    refine ⟨?_, fun c hc => h.2 c (List.mem_of_mem_take hc)⟩
    simpa [scientific] using h.1
  whole_head := by
    obtain ⟨c, cs, rfl⟩ := List.exists_cons_of_ne_nil h.1
    exact fun hc => absurd hc hhead
  fraction := by
    intro fraction hfraction
    simp only [scientific, Option.mem_def, Option.ite_none_left_eq_some] at hfraction
    obtain ⟨hne, hfraction⟩ := hfraction
    cases hfraction
    exact ⟨by simpa using hne, fun c hc => h.2 c (List.mem_of_mem_drop hc)⟩
  exponent := by
    simp only [scientific, Option.mem_some_iff, forall_eq']
    exact areDigits_toDigits _

lemma proper_ofDecimal {d : Decimal} (h : d.digits ≠ 0) : (ofDecimal negative d).Proper := by
  unfold ofDecimal
  dsimp only
  split
  case isTrue => exact proper_positional (areDigits_toDigits _) (head?_toDigits_ne_zero h)
  case isFalse => exact proper_scientific (areDigits_toDigits _) (head?_toDigits_ne_zero h)

lemma proper_ofFloat (x : Float) : (ofFloat x).Proper := by
  unfold ofFloat
  dsimp only
  split
  case isTrue =>
    exact ⟨areDigits_toDigits 0, by simp, by simpa using areDigits_toDigits 0, by simp⟩
  case isFalse hm => exact proper_ofDecimal (Decimal.shortest_ne_zero hm)

lemma toList_positionalText (digits : List Char) (point : Int) :
    (NumberLayout.record.positionalText digits point).toList =
      (positional false digits point).chars := by
  unfold NumberLayout.positionalText positional chars
  dsimp only
  split <;> split <;> simp_all [NumberLayout.record, fractionChars, exponentChars]

lemma toList_exponentText (digits : List Char) (point : Int) :
    (NumberLayout.exponentText digits point).toList =
      (scientific false digits point).chars := by
  unfold NumberLayout.exponentText scientific chars
  dsimp only
  split <;> split <;> simp_all [fractionChars, exponentChars]

lemma toList_decimalText (d : Decimal) :
    (NumberLayout.record.decimalText d).toList = (ofDecimal false d).chars := by
  unfold NumberLayout.decimalText ofDecimal
  dsimp only
  split
  case isTrue => exact toList_positionalText _ _
  case isFalse => exact toList_exponentText _ _

/-- The sign is written before the rest. -/
lemma chars_ofDecimal (negative : Bool) (d : Decimal) :
    (ofDecimal negative d).chars =
      (if negative then ['-'] else []) ++ (ofDecimal false d).chars := by
  unfold ofDecimal
  dsimp only
  split <;> simp [positional, scientific, chars]

lemma toList_numberText {x : Float} (h : x.isFinite = true) :
    (numberText x).toList = (ofFloat x).chars := by
  rw [numberText, if_pos h]
  unfold NumberLayout.finiteText ofFloat
  dsimp only
  have htie : NumberLayout.record.tie = .toEven := rfl
  have hsuffix : NumberLayout.record.wholeSuffix = ".0" := rfl
  by_cases hm : (Binary64.magnitude x).mantissa = 0
  · cases Binary64.isNegative x <;> simp [hm, hsuffix, chars, fractionChars, exponentChars]
  · rw [if_neg hm, if_neg hm, chars_ofDecimal, ← toList_decimalText]
    cases Binary64.isNegative x <;> simp [htie]

end

end NumberLiteral

end SlotMachine
