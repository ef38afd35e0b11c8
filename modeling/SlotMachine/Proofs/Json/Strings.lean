import Mathlib.Data.List.Basic
import SlotMachine.Json.Syntax
import SlotMachine.Json.Text

/-!
# Strings in JSON texts

A string that is written is read back, whatever stands in it: each character, escaped or not, is
read as one piece (`readPieces?_escape`).
-/

namespace SlotMachine

namespace Json

open Source (ofString)

variable {rest more : Source} {pieces : List Piece}

/-! ### One character -/

/-- The four digits of an escaped control character write its number. -/
lemma unit?_hexDigits {n : Nat} (h : n < 0x20) :
    unit? '0' '0' (hexDigit (n / 16)) (hexDigit (n % 16)) = some n := by
  revert n
  decide

lemma Piece.ofUnit_toNat (c : Char) : Piece.ofUnit c.toNat = .char c := by
  have hvalid : c.toNat.isValidChar := c.valid
  simp [Piece.ofUnit, hvalid]

lemma readPieces?_unit {a b c d : Char} {n : Nat} (hn : unit? a b c d = some n)
    (h : readPieces? rest = some (pieces, more)) :
    readPieces? (some '\\' :: some 'u' :: some a :: some b :: some c :: some d :: rest) =
      some (.ofUnit n :: pieces, more) := by
  simp [readPieces?, hn, h]

lemma readPieces?_short {c d : Char} (hc : c ≠ 'u') (hd : shortEscape? c = some d)
    (h : readPieces? rest = some (pieces, more)) :
    readPieces? (some '\\' :: some c :: rest) = some (.char d :: pieces, more) := by
  simp [readPieces?, hc, hd, h]

lemma readPieces?_plain {c : Char} (hquote : c ≠ '"') (hback : c ≠ '\\') (hc : ¬c.toNat < 0x20)
    (h : readPieces? rest = some (pieces, more)) :
    readPieces? (some c :: rest) = some (.char c :: pieces, more) := by
  simp [readPieces?, hback, hc, h]

/-- However a character is written, it is read as itself. -/
lemma readPieces?_escape (c : Char) (h : readPieces? rest = some (pieces, more)) :
    readPieces? ((escape c).map some ++ rest) = some (.char c :: pieces, more) := by
  unfold escape
  split_ifs with h₁ h₂ h₃ h₄ h₅ h₆ h₇ h₈
  · subst h₁; exact readPieces?_short (by decide) rfl h
  · subst h₂; exact readPieces?_short (by decide) rfl h
  · subst h₃; exact readPieces?_short (by decide) rfl h
  · subst h₄; exact readPieces?_short (by decide) rfl h
  · subst h₅; exact readPieces?_short (by decide) rfl h
  · subst h₆; exact readPieces?_short (by decide) rfl h
  · subst h₇; exact readPieces?_short (by decide) rfl h
  · rw [← Piece.ofUnit_toNat c]
    exact readPieces?_unit (unit?_hexDigits h₈) h
  · exact readPieces?_plain h₁ h₂ h₈ h

/-! ### Whole strings -/

lemma readPieces?_flatMap_escape (cs : List Char) (rest : Source) :
    readPieces? ((cs.flatMap escape).map some ++ some '"' :: rest) =
      some (cs.map .char, rest) := by
  induction cs with
  | nil => rfl
  | cons c cs ih =>
    rw [List.flatMap_cons, List.map_append, List.append_assoc]
    exact readPieces?_escape c ih

lemma Piece.toChars?_map_char (cs : List Char) : toChars? (cs.map .char) = some cs := by
  induction cs with
  | nil => rfl
  | cons c cs ih => simp [toChars?, ih]

/-- A string that is written is read back. -/
lemma readString?_quote (text : String) (rest : Source) :
    ∃ source, ofString (quote text) ++ rest = some '"' :: source ∧
      readString? source = some (some text, rest) := by
  refine ⟨(text.toList.flatMap escape).map some ++ some '"' :: rest, ?_, ?_⟩
  · simp [ofString, quote]
  · rw [readString?, readPieces?_flatMap_escape]
    simp [Piece.toChars?_map_char]

end Json

end SlotMachine
