import Mathlib.Data.List.Basic
import SlotMachine.Decimal.Shortest

/-!
# Decimal digits

What is known of the digits of a number: they are digits, the first of them is no zero unless the
number is zero itself, and they write the number. The shortest decimal of a magnitude is not zero if
the magnitude is not.
-/

namespace SlotMachine

/-- There are digits, and nothing else. -/
def AreDigits (cs : List Char) : Prop := cs ≠ [] ∧ ∀ c ∈ cs, c.isDigit = true

section

variable {cs ds : List Char} {c : Char} {n : Nat}

lemma AreDigits.append (h : AreDigits cs) (hd : ∀ c ∈ ds, c.isDigit = true) :
    AreDigits (cs ++ ds) := by
  refine ⟨by simp [h.1], fun c hc => ?_⟩
  rcases List.mem_append.1 hc with hc | hc
  · exact h.2 c hc
  · exact hd c hc

lemma isDigit_of_mem_replicate (h : c ∈ List.replicate n '0') : c.isDigit = true := by
  rw [List.eq_of_mem_replicate h]
  decide

lemma areDigits_toDigits (n : Nat) : AreDigits (Nat.toDigits 10 n) :=
  ⟨Nat.toDigits_ne_nil, fun _ hc => Nat.isDigit_of_mem_toDigits (by decide) (by decide) hc⟩

/-- A number that is not zero does not start with a zero; the induction drops the last digit. -/
lemma head?_toDigits_ne_zero (h : n ≠ 0) : (Nat.toDigits 10 n).head? ≠ some '0' := by
  induction n using Nat.strongRecOn with
  | ind n ih =>
    rw [Nat.toDigits_eq_if (by decide)]
    by_cases hn : n < 10
    · simp [hn, h]
    · have hdiv : n / 10 ≠ 0 := by omega
      have hhead := ih (n / 10) (by omega) hdiv
      have hne : Nat.toDigits 10 (n / 10) ≠ [] := Nat.toDigits_ne_nil
      obtain ⟨c, cs, hcs⟩ := List.exists_cons_of_ne_nil hne
      rw [hcs] at hhead
      simpa [hn, hcs] using hhead

end

namespace Decimal

variable {tie : TieRule} {i : Interval}

lemma nearestOnGrid?_ne_zero {power : Int} {q : Nat} (h : nearestOnGrid? tie i power = some q) :
    q ≠ 0 := by
  unfold nearestOnGrid? at h
  dsimp only at h
  split at h
  case h_1 hbelow _ =>
    simp only [Bool.and_eq_true, bne_iff_ne, ne_eq] at hbelow
    grind
  case h_2 hbelow _ =>
    simp only [Bool.and_eq_true, bne_iff_ne, ne_eq] at hbelow
    grind
  case h_3 => grind
  case h_4 => cases h

lemma onFirstGrid_ne_zero (h : i.middle ≠ 0) (tries : Nat) (power : Int) :
    (onFirstGrid tie i tries power).digits ≠ 0 := by
  induction tries generalizing power with
  | zero => exact h
  | succ tries ih =>
    unfold onFirstGrid
    split
    case h_1 hq => exact nearestOnGrid?_ne_zero hq
    case h_2 => exact ih _

lemma shortest_ne_zero {m : Magnitude} (h : m.mantissa ≠ 0) : (shortest tie m).digits ≠ 0 := by
  apply onFirstGrid_ne_zero
  show 4 * m.mantissa ≠ 0
  omega

end Decimal

end SlotMachine
