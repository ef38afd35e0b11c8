import Mathlib.Order.Monotone.Basic
import SlotMachine.Proofs.Instant.Order
import SlotMachine.Proofs.Instant.Text
import SlotMachine.Proofs.Text.Order

/-!
# The order of instants in texts

Instants are written with the larger units first and each unit in a width of its own. So their texts
compare like the instants do once what is not written has been cut off (`compareBytes_microText`).
This takes that numbers of one width compare like their digits, and that days compare like their
dates: from each day to the next one the date grows.
-/

namespace SlotMachine

/-! ### Dates -/

namespace Date

/-- Years, months and days in one number. -/
def place (d : Date) : Int := (13 * d.year + d.month) * 32 + d.day

namespace EraDay

variable (d : EraDay) (era : Int)

/-- The day after a day is the next one of its year or the first one of the next year. -/
lemma exists_next : ∃ (d' : EraDay) (era' : Int),
    146097 * era' + d'.number = 146097 * era + d.number + 1 ∧
    (400 * era' + d'.yearOfEra = 400 * era + d.yearOfEra ∧ d'.day = d.day + 1 ∨
      400 * era' + d'.yearOfEra = 400 * era + d.yearOfEra + 1 ∧ d'.day = 0) := by
  obtain ⟨century, span, year, day, hcentury, hspan, hyear, hday⟩ := d
  unfold number yearOfEra
  by_cases hlast : day < 364 ∨ day = 364 ∧ year = 3 ∧ (span < 24 ∨ century = 3)
  · exact ⟨⟨century, span, year, day + 1, hcentury, hspan, hyear, by omega⟩, era,
      by dsimp only; omega, by dsimp only; omega⟩
  by_cases hyear' : year < 3
  · exact ⟨⟨century, span, year + 1, 0, hcentury, hspan, by omega, by omega⟩, era,
      by dsimp only; omega, by dsimp only; omega⟩
  by_cases hspan' : span < 24
  · exact ⟨⟨century, span + 1, 0, 0, hcentury, by omega, by omega, by omega⟩, era,
      by dsimp only; omega, by dsimp only; omega⟩
  by_cases hcentury' : century < 3
  · exact ⟨⟨century + 1, 0, 0, 0, by omega, by omega, by omega, by omega⟩, era,
      by dsimp only; omega, by dsimp only; omega⟩
  · exact ⟨⟨0, 0, 0, 0, by omega, by omega, by omega, by omega⟩, era + 1,
      by dsimp only; omega, by dsimp only; omega⟩

/-- The place of a day in a year that is counted from March. -/
def placeInYear (day : Nat) : Nat :=
  let month := (5 * day + 2) / 153
  32 * (month + if month < 10 then 3 else 4) + (day - daysBeforeMonth month + 1)

lemma place_date : (d.date era).place =
    416 * (400 * era + d.yearOfEra) + placeInYear d.day := by
  unfold place date placeInYear month
  dsimp only
  split <;> push_cast <;> omega

lemma placeInYear_lt_succ : ∀ day < 365, placeInYear day < placeInYear (day + 1) := by
  decide +kernel

lemma placeInYear_lt_next : ∀ day < 366, placeInYear day < 416 + placeInYear 0 := by
  decide +kernel

end EraDay

lemma place_lt_succ (days : Int) : (ofDays days).place < (ofDays (days + 1)).place := by
  obtain ⟨d, era, rfl⟩ := exists_eraDay days
  obtain ⟨d', era', hnumber, hnext⟩ := d.exists_next era
  have hsucc : 146097 * era + d.number - 719468 + 1 = 146097 * era' + d'.number - 719468 := by
    omega
  have hday := d'.day_lt_366
  rw [hsucc, d.ofDays_number, d'.ofDays_number, d.place_date, d'.place_date]
  rcases hnext with ⟨hyear, hday'⟩ | ⟨hyear, hday'⟩
  · have hplace := EraDay.placeInYear_lt_succ d.day (by omega)
    rw [hyear, hday']
    omega
  · have hplace := EraDay.placeInYear_lt_next d.day d.day_lt_366
    rw [hyear, hday']
    omega

lemma place_ofDays_lt_iff {m n : Int} : (ofDays m).place < (ofDays n).place ↔ m < n :=
  (strictMono_int_of_lt_succ place_lt_succ).lt_iff_lt

/-- Days compare like the years, the months and the days of their dates. -/
lemma compare_ofDays (m n : Int) :
    (compare (ofDays m).year (ofDays n).year).then
        ((compare (ofDays m).month (ofDays n).month).then
          (compare (ofDays m).day (ofDays n).day)) = compare m n := by
  obtain ⟨hmonth, hday⟩ := isValid_le (isValid_ofDays m)
  obtain ⟨hmonth', hday'⟩ := isValid_le (isValid_ofDays n)
  have hplace : compare m n = compare (ofDays m).place (ofDays n).place :=
    compare_congr place_ofDays_lt_iff.symm place_ofDays_lt_iff.symm
  have hrest : (compare (ofDays m).month (ofDays n).month).then
      (compare (ofDays m).day (ofDays n).day) =
        compare (32 * (ofDays m).month + (ofDays m).day) (32 * (ofDays n).month + (ofDays n).day) :=
    compare_then_eq (by omega) (by omega)
  rw [hplace, hrest]
  unfold place
  exact compare_then_eq (by omega) (by omega)

end Date

/-! ### Numbers of a fixed width -/

namespace Instant

section

variable {xs ys : List Char}

lemma digit_lt {c : Char} (h : c.isDigit = true) :
    '0'.toNat ≤ c.toNat ∧ c.toNat < '0'.toNat + 10 := by
  simp only [Char.isDigit, ge_iff_le, Bool.and_eq_true, decide_eq_true_iff,
    UInt32.le_iff_toNat_le] at h
  exact ⟨h.1, Nat.lt_succ_of_le h.2⟩

lemma compare_digit {c d : Char} (hc : c.isDigit = true) (hd : d.isDigit = true) (m n : Nat) :
    (compare m n).then (compare c d) =
      compare (10 * m + (c.toNat - '0'.toNat)) (10 * n + (d.toNat - '0'.toNat)) := by
  have hc := digit_lt hc
  have hd := digit_lt hd
  rw [compare_char]
  exact compare_then_eq (by omega) (by omega)

/-- Numbers with as many digits compare like their digits. -/
lemma compare_foldl (h : xs.length = ys.length) (hxs : ∀ c ∈ xs, c.isDigit = true)
    (hys : ∀ c ∈ ys, c.isDigit = true) (m n : Nat) :
    compare (xs.foldl (fun n c => 10 * n + (c.toNat - '0'.toNat)) m)
        (ys.foldl (fun n c => 10 * n + (c.toNat - '0'.toNat)) n) =
      (compare m n).then (compare xs ys) := by
  induction xs generalizing ys m n with
  | nil =>
    rw [List.eq_nil_of_length_eq_zero h.symm]
    exact Ordering.then_eq.symm
  | cons x xs ih =>
    obtain ⟨y, ys, rfl⟩ := List.exists_cons_of_length_eq_add_one h.symm
    obtain ⟨hx, hxs⟩ := List.forall_mem_cons.1 hxs
    obtain ⟨hy, hys⟩ := List.forall_mem_cons.1 hys
    rw [List.foldl_cons, List.foldl_cons, ih (Nat.succ.inj h) hxs hys, ← compare_digit hx hy,
      List.compare_cons_cons, Ordering.then_assoc]

/-- Numbers in fields of one width, each with the same mark behind it. -/
lemma compare_field {width a b : Nat} (hwidth : 0 < width) (ha : a < 10 ^ width)
    (hb : b < 10 ^ width) (mark : Char) (rest rest' : List Char) :
    compare (paddedChars width a ++ mark :: rest) (paddedChars width b ++ mark :: rest') =
      (compare a b).then (compare rest rest') := by
  have hlength : (paddedChars width a).length = (paddedChars width b).length := by
    rw [length_paddedChars hwidth ha, length_paddedChars hwidth hb]
  have hdigits := compare_foldl hlength (fun _ h => isDigit_paddedChars h)
    (fun _ h => isDigit_paddedChars h) 0 0
  have hvalue (n : Nat) : (paddedChars width n).foldl
      (fun n c => 10 * n + (c.toNat - '0'.toNat)) 0 = n := ofDigits_paddedChars width n
  rw [hvalue, hvalue] at hdigits
  rw [compare_append hlength, hdigits, List.compare_cons_cons, Std.ReflOrd.compare_self]
  rfl

lemma isAscii_paddedChars (width n : Nat) : IsAscii (paddedChars width n) := by
  intro c hc
  have hdigit := digit_lt (isDigit_paddedChars hc)
  rw [Char.utf8Size_eq_one_iff, UInt32.le_iff_toNat_le]
  exact Nat.le_of_lt_succ (hdigit.2.trans (by decide))

end

/-! ### Whole instants -/

variable {a b : Instant}

lemma compare_eq (a b : Instant) :
    compare a b = (compare a.seconds b.seconds).then (compare a.nanos b.nanos) :=
  (compare_then_eq (lt_iff (a := a) (b := b)).symm (lt_iff (a := b) (b := a)).symm).symm

/-- An instant without what is less than a microsecond. -/
def wholeMicros (i : Instant) : Instant := { i with nanos := i.nanos / 1000 * 1000 }

lemma toList_microText {i : Instant} (h : i.Plain) : i.microText.toList =
    paddedChars 4 i.date.year.toNat ++ '-' :: (paddedChars 2 i.date.month ++ '-' ::
      (paddedChars 2 i.date.day ++ 'T' :: (paddedChars 2 (i.secondOfDay / 3600) ++ ':' ::
        (paddedChars 2 (i.secondOfDay / 60 % 60) ++ ':' :: (paddedChars 2 (i.secondOfDay % 60) ++
          '.' :: (paddedChars 6 (i.nanos / 1000) ++ ['Z'])))))) := by
  have hyear : 0 ≤ i.date.year ∧ i.date.year ≤ 9999 :=
    ⟨h.year_nonneg, Int.le_of_lt_add_one h.year_lt⟩
  unfold microText clockText yearText
  rw [← date, ← secondOfDay]
  dsimp only
  rw [if_pos hyear, if_pos h.nanos_lt, Nat.mod_eq_of_lt h.nanos_lt]
  simp [toList_padded]

lemma isAscii_microText {i : Instant} (h : i.Plain) : IsAscii i.microText.toList := by
  rw [toList_microText h]
  simp only [isAscii_append, isAscii_cons, isAscii_paddedChars, isAscii_nil, true_and, and_true]
  decide

/-- The seconds of a day compare like its hours, minutes and seconds. -/
lemma compare_secondOfDay (m n : Nat) :
    (compare (m / 3600) (n / 3600)).then ((compare (m / 60 % 60) (n / 60 % 60)).then
      (compare (m % 60) (n % 60))) = compare m n := by
  have hrest : (compare (m / 60 % 60) (n / 60 % 60)).then (compare (m % 60) (n % 60)) =
      compare (m % 3600) (n % 3600) := compare_then_eq (by omega) (by omega)
  rw [hrest]
  exact compare_then_eq (by omega) (by omega)

/-- Seconds compare like the days and the seconds of the day. -/
lemma compare_seconds (a b : Instant) : (compare (a.seconds / 86400) (b.seconds / 86400)).then
    (compare a.secondOfDay b.secondOfDay) = compare a.seconds b.seconds := by
  unfold secondOfDay
  exact compare_then_eq (by omega) (by omega)

/-- The fields of an instant fit into their widths. -/
structure Fits (i : Instant) : Prop where
  year : i.date.year.toNat < 10 ^ 4
  month : i.date.month < 10 ^ 2
  day : i.date.day < 10 ^ 2
  hour : i.secondOfDay / 3600 < 10 ^ 2
  minute : i.secondOfDay / 60 % 60 < 10 ^ 2
  second : i.secondOfDay % 60 < 10 ^ 2
  micros : i.nanos / 1000 < 10 ^ 6

lemma Plain.fits {i : Instant} (h : i.Plain) : i.Fits := by
  obtain ⟨hmonth, hday⟩ := Date.isValid_lt (Date.isValid_ofDays (i.seconds / 86400))
  obtain ⟨hnanos, hyear, hyear'⟩ := h
  have hsecond : i.secondOfDay < 86400 := by
    unfold secondOfDay
    omega
  exact ⟨by omega, hmonth, hday, by omega, by omega, by omega, by omega⟩

/-- The texts of instants compare like the instants without what is cut off. -/
lemma compareBytes_microText (ha : a.Plain) (hb : b.Plain) :
    compareBytes a.microText b.microText = compare a.wholeMicros b.wholeMicros := by
  have hyear : compare a.date.year.toNat b.date.year.toNat = compare a.date.year b.date.year := by
    have hya := ha.year_nonneg
    have hyb := hb.year_nonneg
    exact compare_congr (by omega) (by omega)
  have hmicros : compare (a.nanos / 1000) (b.nanos / 1000) =
      compare a.wholeMicros.nanos b.wholeMicros.nanos := by
    unfold wholeMicros
    dsimp only
    exact compare_congr (by omega) (by omega)
  have hfa := ha.fits
  have hfb := hb.fits
  calc compareBytes a.microText b.microText
    _ = compare a.microText.toList b.microText.toList :=
      compareBytes_eq (isAscii_microText ha) (isAscii_microText hb)
    _ = (compare a.date.year.toNat b.date.year.toNat).then
        ((compare a.date.month b.date.month).then ((compare a.date.day b.date.day).then
          ((compare (a.secondOfDay / 3600) (b.secondOfDay / 3600)).then
            ((compare (a.secondOfDay / 60 % 60) (b.secondOfDay / 60 % 60)).then
              ((compare (a.secondOfDay % 60) (b.secondOfDay % 60)).then
                (compare (a.nanos / 1000) (b.nanos / 1000))))))) := by
      have hend : compare ([] : List Char) [] = .eq := rfl
      rw [toList_microText ha, toList_microText hb,
        compare_field (by decide) hfa.year hfb.year, compare_field (by decide) hfa.month hfb.month,
        compare_field (by decide) hfa.day hfb.day, compare_field (by decide) hfa.hour hfb.hour,
        compare_field (by decide) hfa.minute hfb.minute,
        compare_field (by decide) hfa.second hfb.second,
        compare_field (by decide) hfa.micros hfb.micros, hend, Ordering.then_eq]
    _ = ((compare (a.seconds / 86400) (b.seconds / 86400)).then
        (compare a.secondOfDay b.secondOfDay)).then
          (compare (a.nanos / 1000) (b.nanos / 1000)) := by
      rw [← compare_secondOfDay a.secondOfDay, ← Date.compare_ofDays, hyear]
      simp only [Ordering.then_assoc, date]
    _ = compare a.wholeMicros b.wholeMicros := by
      rw [compare_seconds, hmicros, compare_eq]
      rfl

end Instant

end SlotMachine
