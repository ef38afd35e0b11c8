import Mathlib.Tactic.SplitIfs
import SlotMachine.Instant.Calendar

/-!
# Days and dates

Every day number is the number of its date, and the date is one that there is. An era is taken apart
into centuries, spans of four years, years and days (`EraDay`); the date of a day follows from these
parts, so that no statement but one is about the divisions that find the year.
-/

namespace SlotMachine

namespace Date

/-- A day of an era. The last year of a span has a leap day, but for the last span of a century that
is not the last one. -/
structure EraDay where
  century : Nat
  span : Nat
  year : Nat
  day : Nat
  century_lt : century < 4
  span_lt : span < 25
  year_lt : year < 4
  day_lt : day < 365 ∨ day = 365 ∧ year = 3 ∧ (span < 24 ∨ century = 3)

namespace EraDay

variable (d : EraDay)

/-- The number of the day in its era. -/
def number : Nat := 36524 * d.century + 1461 * d.span + 365 * d.year + d.day

/-- The year of the era. -/
def yearOfEra : Nat := 100 * d.century + 4 * d.span + d.year

/-- The month, counted from March. -/
def month : Nat := (5 * d.day + 2) / 153

lemma exists_number_eq {n : Nat} (h : n < 146097) : ∃ d : EraDay, d.number = n := by
  obtain ⟨century, hcentury⟩ : ∃ c, c = min (n / 36524) 3 := ⟨_, rfl⟩
  obtain ⟨span, hspan⟩ : ∃ s, s = (n - 36524 * century) / 1461 := ⟨_, rfl⟩
  obtain ⟨year, hyear⟩ : ∃ y, y = min ((n - 36524 * century - 1461 * span) / 365) 3 := ⟨_, rfl⟩
  exact ⟨⟨century, span, year, n - 36524 * century - 1461 * span - 365 * year, by omega, by omega,
    by omega, by omega⟩, by simp only [number]; omega⟩

lemma yearOfEra_lt : d.yearOfEra < 400 := by
  have hcentury := d.century_lt
  have hspan := d.span_lt
  have hyear := d.year_lt
  unfold yearOfEra
  omega

lemma number_lt : d.number < 146097 := by
  have hcentury := d.century_lt
  have hspan := d.span_lt
  have hyear := d.year_lt
  have hday := d.day_lt
  unfold number
  omega

lemma daysBeforeYear_yearOfEra : daysBeforeYear d.yearOfEra + d.day = d.number := by
  have hspan := d.span_lt
  have hyear := d.year_lt
  unfold daysBeforeYear yearOfEra number
  omega

/-- The divisions find the year. A span of four years is one day longer than `4 * 365`, and an extra
day has to be taken off as soon as these days make up another such span. -/
lemma yearOfEra_eq : (d.number - d.number / 1460 + d.number / 36524 - d.number / 146096) / 365 =
    d.yearOfEra := by
  obtain ⟨century, span, year, day, hc, hs, hy, hd⟩ := d
  unfold yearOfEra
  generalize hn : number _ = n
  simp only [number] at hn ⊢
  by_cases hlast : n = 146096
  · have hcentury : century = 3 := by omega
    have hspan : span = 24 := by omega
    have hyear : year = 3 := by omega
    subst hlast hcentury hspan hyear
    rfl
  · have hera : n / 146096 = 0 := by omega
    have hcentury : n / 36524 = century := by omega
    by_cases hextra : 1460 ≤ 24 * century + span + 365 * year + day
    · have hspan : n / 1460 = 25 * century + span + 1 := by omega
      have hyears : n - n / 1460 + n / 36524 - n / 146096 =
          365 * (100 * century + 4 * span + year) + (day - 1) := by omega
      omega
    · have hspan : n / 1460 = 25 * century + span := by omega
      have hyears : n - n / 1460 + n / 36524 - n / 146096 =
          365 * (100 * century + 4 * span + year) + day := by omega
      omega

lemma day_lt_366 : d.day < 366 := by
  have hday := d.day_lt
  omega

/-- Every month is found by one division too. -/
lemma month_facts {day : Nat} (h : day < 366) :
    (5 * day + 2) / 153 < 12 ∧ daysBeforeMonth ((5 * day + 2) / 153) ≤ day := by
  unfold daysBeforeMonth
  omega

/-- In a common year every day is within its month. -/
lemma common_days : ∀ day < 365, day - daysBeforeMonth ((5 * day + 2) / 153) + 1 ≤
    daysInMonth 1 (if (5 * day + 2) / 153 < 10 then (5 * day + 2) / 153 + 3
      else (5 * day + 2) / 153 - 9) := by
  decide +kernel

/-- No month is shorter in another year. -/
lemma daysInMonth_common (year : Int) (month : Nat) :
    daysInMonth 1 month ≤ daysInMonth year month := by
  by_cases h : month = 2
  · have hfirst : isLeapYear 1 = false := rfl
    cases hyear : isLeapYear year <;> simp [daysInMonth, h, hyear, hfirst]
  · simp [daysInMonth, h]

/-- The date of the day in this era. -/
def date (era : Int) : Date where
  year := if d.month < 10 then 400 * era + d.yearOfEra else 400 * era + d.yearOfEra + 1
  month := if d.month < 10 then d.month + 3 else d.month - 9
  day := d.day - daysBeforeMonth d.month + 1

lemma ofDays_number (era : Int) : ofDays (146097 * era + d.number - 719468) = d.date era := by
  have hnumber := d.number_lt
  have hday := d.daysBeforeYear_yearOfEra
  have hshift : 146097 * era + d.number - 719468 + 719468 = 146097 * era + d.number := by omega
  have hera : (146097 * era + d.number) / 146097 = era := by omega
  have hrest : ((146097 * era + d.number) % 146097).toNat = d.number := by omega
  have hsub : d.number - daysBeforeYear d.yearOfEra = d.day := by omega
  unfold ofDays
  simp only [hshift, hera, hrest, yearOfEra_eq, hsub, Int.mul_comm era 400]
  rfl

lemma toDays_date (era : Int) : (d.date era).toDays = 146097 * era + d.number - 719468 := by
  have hyear := d.yearOfEra_lt
  have hday := d.daysBeforeYear_yearOfEra
  obtain ⟨hmonth, hbefore⟩ := month_facts d.day_lt_366
  rw [← month] at hmonth hbefore
  have hera : (400 * era + d.yearOfEra) / 400 = era := by omega
  have hrest : ((400 * era + (d.yearOfEra : Int)) % 400).toNat = d.yearOfEra := by omega
  unfold toDays date
  by_cases h : d.month < 10
  · have hfirst : ¬d.month + 3 ≤ 2 := by omega
    simp only [h, if_true, hfirst, if_false, hera, hrest, Nat.add_sub_cancel]
    omega
  · have hfirst : d.month - 9 ≤ 2 := by omega
    have hback : d.month - 9 + 9 = d.month := by omega
    simp only [h, hfirst, if_true, if_false, Int.add_sub_cancel, hera, hrest, hback,
      Nat.add_sub_cancel]
    omega

lemma isLeapYear_date {era : Int} (h : d.day = 365) :
    isLeapYear (400 * era + d.yearOfEra + 1) = true := by
  have hspan := d.span_lt
  have hday := d.day_lt
  simp only [isLeapYear, yearOfEra, Bool.and_eq_true, Bool.or_eq_true, bne_iff_ne, beq_iff_eq,
    ne_eq]
  omega

lemma isValid_date (era : Int) : (d.date era).isValid = true := by
  obtain ⟨hmonth, -⟩ := month_facts d.day_lt_366
  rw [← month] at hmonth
  have hmonths : 1 ≤ (d.date era).month ∧ (d.date era).month ≤ 12 := by
    unfold date
    dsimp only
    split <;> omega
  have hdays : (d.date era).day ≤ daysInMonth (d.date era).year (d.date era).month := by
    by_cases h : d.day = 365
    · have hlast : d.month = 11 := by simp [month, h]
      simp [date, h, hlast, daysInMonth, d.isLeapYear_date h, daysBeforeMonth]
    · have hcommon : d.day < 365 := by
        have hday := d.day_lt
        omega
      exact Nat.le_trans (common_days d.day hcommon) (daysInMonth_common _ _)
  have hfirst : 1 ≤ (d.date era).day := Nat.le_add_left 1 _
  simp only [isValid, hmonths, hdays, hfirst, decide_true, Bool.and_true]

end EraDay

lemma exists_eraDay (days : Int) :
    ∃ (d : EraDay) (era : Int), days = 146097 * era + d.number - 719468 := by
  obtain ⟨d, hd⟩ := EraDay.exists_number_eq (n := ((days + 719468) % 146097).toNat) (by omega)
  exact ⟨d, (days + 719468) / 146097, by omega⟩

/-- The date of a day has the number of the day. -/
lemma toDays_ofDays (days : Int) : (ofDays days).toDays = days := by
  obtain ⟨d, era, rfl⟩ := exists_eraDay days
  rw [d.ofDays_number, d.toDays_date]

lemma isValid_ofDays (days : Int) : (ofDays days).isValid = true := by
  obtain ⟨d, era, rfl⟩ := exists_eraDay days
  rw [d.ofDays_number]
  exact d.isValid_date era

lemma isValid_le {d : Date} (h : d.isValid = true) : d.month ≤ 12 ∧ d.day ≤ 31 := by
  have hmonth : daysInMonth d.year d.month ≤ 31 := by
    unfold daysInMonth
    split_ifs <;> decide
  simp only [isValid, Bool.and_eq_true, decide_eq_true_iff] at h
  omega

/-- The months and the days of a date have at most two digits. -/
lemma isValid_lt {d : Date} (h : d.isValid = true) : d.month < 100 ∧ d.day < 100 := by
  obtain ⟨hmonth, hday⟩ := isValid_le h
  omega

/-- The days of the years that have four digits, in eras. -/
lemma bounds_of_year {days : Int} (hlow : 0 ≤ (ofDays days).year)
    (hhigh : (ofDays days).year < 10000) : -1000000 ≤ days ∧ days ≤ 3000000 := by
  obtain ⟨d, era, rfl⟩ := exists_eraDay days
  rw [d.ofDays_number] at hlow hhigh
  have hyear := d.yearOfEra_lt
  have hnumber := d.number_lt
  unfold EraDay.date at hlow hhigh
  dsimp only at hlow hhigh
  split at hlow <;> omega

end Date

end SlotMachine
