import Mathlib.Algebra.Order.Ring.Nat
import SlotMachine.Instant.Text
import SlotMachine.Proofs.Decimal.Digits
import SlotMachine.Proofs.Instant.Calendar

/-!
# Instants in texts

An instant that is written is read back, down to the nanosecond (`ofText?_text`), if its year has
four digits and it is no leap second. Each field is written in as many digits as the reader takes at
most, so that it ends where it was written to end.
-/

namespace SlotMachine

namespace Instant

/-! ### Numbers of a fixed width -/

variable {ds rest : List Char} {limit width n : Nat}

/-- No digit goes on here. -/
def StopsDigits (rest : List Char) : Prop := ∀ c, rest.head? = some c → c.isDigit = false

lemma spanDigits_append (hd : ∀ c ∈ ds, c.isDigit = true) (hlimit : ds.length ≤ limit)
    (hrest : ds.length = limit ∨ StopsDigits rest) :
    spanDigits limit (ds ++ rest) = (ds, rest) := by
  induction ds generalizing limit with
  | nil =>
    match limit, rest with
    | 0, _ => rfl
    | _ + 1, [] => rfl
    | _ + 1, c :: rest =>
      have hc : c.isDigit = false := (hrest.resolve_left (by simp)) c rfl
      simp [spanDigits, hc]
  | cons c ds ih =>
    obtain ⟨limit, rfl⟩ : ∃ n, limit = n + 1 := ⟨limit - 1, by simp at hlimit; omega⟩
    have hc := hd c List.mem_cons_self
    have hds := ih (fun c' hc' => hd c' (List.mem_cons_of_mem c hc')) (by simpa using hlimit)
      (by simpa using hrest)
    simp [spanDigits, hc, hds]

/-- The characters of a number that is filled up with zeros. -/
def paddedChars (width n : Nat) : List Char :=
  List.replicate (width - (Nat.toDigits 10 n).length) '0' ++ Nat.toDigits 10 n

lemma toList_padded (width n : Nat) : (padded width n).toList = paddedChars width n := by
  simp [padded, paddedChars]

lemma isDigit_paddedChars {c : Char} (h : c ∈ paddedChars width n) : c.isDigit = true := by
  rcases List.mem_append.1 h with h | h
  · exact isDigit_of_mem_replicate h
  · exact (areDigits_toDigits n).2 c h

lemma length_paddedChars (hwidth : 0 < width) (hn : n < 10 ^ width) :
    (paddedChars width n).length = width := by
  have hlength := (Nat.length_toDigits_le_iff (by decide) hwidth).2 hn
  simp only [paddedChars, List.length_append, List.length_replicate]
  omega

lemma paddedChars_ne_nil (width n : Nat) : paddedChars width n ≠ [] := by
  simp [paddedChars]

lemma ofDigits_paddedChars (width n : Nat) : ofDigits (paddedChars width n) = n := by
  show Nat.ofDigitChars 10 _ 0 = n
  simp [paddedChars, Nat.ofDigitChars_append]

lemma readNumber?_padded (hwidth : 0 < width) (hn : n < 10 ^ width) (rest : List Char) :
    readNumber? width (paddedChars width n ++ rest) = some (n, rest) := by
  have hlength := length_paddedChars hwidth hn
  have hspan : spanDigits width (paddedChars width n ++ rest) = (paddedChars width n, rest) :=
    spanDigits_append (fun _ hc => isDigit_paddedChars hc) hlength.le (Or.inl hlength)
  have hne := paddedChars_ne_nil width n
  simp [readNumber?, hspan, ofDigits_paddedChars]

/-! ### Fields -/

lemma isBlank_of_isDigit {c : Char} (h : c.isDigit = true) : isBlank c = false := by
  simp only [Char.isDigit, ge_iff_le, Bool.and_eq_true, decide_eq_true_iff] at h
  unfold isBlank
  simp [UInt32.le_iff_toNat_le, ← UInt32.toNat_inj] at h ⊢
  omega

/-- A field starts with a digit. -/
lemma exists_paddedChars (width n : Nat) :
    ∃ c cs, paddedChars width n = c :: cs ∧ c.isDigit = true := by
  obtain ⟨c, cs, hcs⟩ := List.exists_cons_of_ne_nil (paddedChars_ne_nil width n)
  exact ⟨c, cs, hcs, isDigit_paddedChars (by rw [hcs]; exact List.mem_cons_self)⟩

lemma dropWhile_padded (width n : Nat) (rest : List Char) :
    (paddedChars width n ++ rest).dropWhile isBlank = paddedChars width n ++ rest := by
  obtain ⟨c, cs, hcs, hc⟩ := exists_paddedChars width n
  rw [hcs]
  exact List.dropWhile_cons_of_neg (by simp [isBlank_of_isDigit hc])

lemma readField?_padded (hn : n < 100) (rest : List Char) :
    readField? 2 (paddedChars 2 n ++ rest) = some (n, rest) := by
  rw [readField?, dropWhile_padded, readNumber?_padded (by decide) hn]

lemma readYear?_padded (hn : n < 10000) (rest : List Char) :
    readYear? (paddedChars 4 n ++ rest) = some ((n : Int), rest) := by
  have hnumber : readNumber? 4 (paddedChars 4 n ++ rest) = some (n, rest) :=
    readNumber?_padded (by decide) hn rest
  obtain ⟨c, cs, hcs, hc⟩ := exists_paddedChars 4 n
  unfold readYear?
  rw [dropWhile_padded]
  rw [hcs] at hnumber ⊢
  split
  case h_1 heq => cases heq; exact absurd hc (by decide)
  case h_2 heq => cases heq; exact absurd hc (by decide)
  case h_3 => rw [hnumber]; rfl

/-- What a fraction is written with; no digits for none. -/
lemma readFraction?_padded (hwidth : 0 < width) (hlimit : width ≤ 9) (hn : n < 10 ^ width)
    (rest : List Char) (hrest : StopsDigits rest) :
    readFraction? ('.' :: (paddedChars width n ++ rest)) = some (n * 10 ^ (9 - width), rest) := by
  have hlength := length_paddedChars hwidth hn
  have hspan : spanDigits 9 (paddedChars width n ++ rest) = (paddedChars width n, rest) :=
    spanDigits_append (fun _ hc => isDigit_paddedChars hc) (hlength.trans_le hlimit) (Or.inr hrest)
  have hdrop : rest.dropWhile Char.isDigit = rest := by
    match rest with
    | [] => rfl
    | c :: rest => exact List.dropWhile_cons_of_neg (by simp [hrest c rfl])
  have hne := paddedChars_ne_nil width n
  simp [readFraction?, hspan, ofDigits_paddedChars, hlength, hdrop]

/-- The fraction of the second is read back in full. -/
lemma readFraction?_fractionText {i : Instant} (hnanos : i.nanos < 1000000000) :
    readFraction? (i.fractionText.toList ++ ['Z']) = some (i.nanos, ['Z']) := by
  have hstop : StopsDigits ['Z'] := by
    intro c hc
    cases hc
    decide
  have hread {width n : Nat} (hwidth : 0 < width) (hlimit : width ≤ 9) (hn : n < 10 ^ width) :
      readFraction? (("." ++ padded width n).toList ++ ['Z']) =
        some (n * 10 ^ (9 - width), ['Z']) := by
    rw [String.toList_append, toList_padded]
    exact readFraction?_padded hwidth hlimit hn ['Z'] hstop
  have hmod : i.nanos % 1000000000 = i.nanos := Nat.mod_eq_of_lt hnanos
  unfold fractionText
  rw [hmod]
  dsimp only
  split_ifs with h₁ h₂ h₃
  · rw [h₁]
    rfl
  · rw [hread (by decide) (by decide) (by omega)]
    congr 2
    omega
  · rw [hread (by decide) (by decide) (by omega)]
    congr 2
    omega
  · rw [hread (by decide) (by decide) hnanos]
    congr 2
    omega

/-! ### Whole instants -/

/-- The date of an instant. -/
def date (i : Instant) : Date := Date.ofDays (i.seconds / 86400)

/-- The second of the day. -/
def secondOfDay (i : Instant) : Nat := (i.seconds % 86400).toNat

/-- An instant of the years that are written in four digits, and of no leap second. -/
structure Plain (i : Instant) : Prop where
  nanos_lt : i.nanos < 1000000000
  year_nonneg : 0 ≤ i.date.year
  year_lt : i.date.year < 10000

lemma toList_text {i : Instant} (h : i.Plain) : i.text.toList =
    paddedChars 4 i.date.year.toNat ++ '-' :: (paddedChars 2 i.date.month ++ '-' ::
      (paddedChars 2 i.date.day ++ 'T' :: (paddedChars 2 (i.secondOfDay / 3600) ++ ':' ::
        (paddedChars 2 (i.secondOfDay / 60 % 60) ++ ':' :: (paddedChars 2 (i.secondOfDay % 60) ++
          (i.fractionText.toList ++ ['Z'])))))) := by
  have hyear : 0 ≤ i.date.year ∧ i.date.year ≤ 9999 :=
    ⟨h.year_nonneg, Int.le_of_lt_add_one h.year_lt⟩
  unfold text clockText yearText
  rw [← date, ← secondOfDay]
  dsimp only
  rw [if_pos hyear, if_pos h.nanos_lt]
  simp [toList_padded]

/-- An instant that is written is read back. -/
lemma ofText?_text {i : Instant} (h : i.Plain) : ofText? i.text = some i := by
  have hvalid : i.date.isValid = true := Date.isValid_ofDays _
  obtain ⟨hmonth, hday⟩ := Date.isValid_lt hvalid
  have hdays : i.date.toDays = i.seconds / 86400 := Date.toDays_ofDays _
  have hbounds := Date.bounds_of_year h.year_nonneg h.year_lt
  have hsecond : i.secondOfDay = i.seconds % 86400 := by
    unfold secondOfDay
    omega
  have hyear : i.date.year.toNat = i.date.year := Int.toNat_of_nonneg h.year_nonneg
  have hyear' : i.date.year.toNat < 10000 := by have := h.year_lt; omega
  have hlt : i.secondOfDay < 86400 := by omega
  have hhour : i.secondOfDay / 3600 < 100 := by omega
  have hminute : i.secondOfDay / 60 % 60 < 100 := by omega
  have hsec : i.secondOfDay % 60 < 100 := by omega
  have hleap : i.secondOfDay % 60 ≠ 60 := by omega
  have hdate : (⟨i.date.year.toNat, i.date.month, i.date.day⟩ : Date) = i.date := by rw [hyear]
  have hclock : i.date.toDays * 86400 + (3600 * (i.secondOfDay / 3600) +
      60 * (i.secondOfDay / 60 % 60) + i.secondOfDay % 60 : Nat) - 0 = i.seconds := by omega
  unfold ofText?
  rw [toList_text h, readYear?_padded hyear']
  -- the marks between the fields are read by computation
  show (readField? 2 _).bind _ = _
  rw [readField?_padded hmonth]
  show (readField? 2 _).bind _ = _
  rw [readField?_padded hday]
  show (readField? 2 _).bind _ = _
  rw [readField?_padded hhour]
  show (readField? 2 _).bind _ = _
  rw [readField?_padded hminute]
  show (readField? 2 _).bind _ = _
  rw [readField?_padded hsec]
  show (readFraction? _).bind _ = _
  rw [readFraction?_fractionText h.nanos_lt]
  show (if _ ∧ _ then _ else none) = _
  dsimp only
  rw [if_neg hleap, if_neg hleap, hdate, hclock, if_pos]
  refine ⟨rfl, hvalid, by omega, by omega, by omega, by omega, by omega, by decide, by decide, ?_,
    ?_⟩
  · show (-8334601228800 : Int) ≤ i.seconds
    omega
  · show i.seconds ≤ (8210266876799 : Int)
    omega

end Instant

end SlotMachine
