/-!
# Placeholders

A placeholder in a text is a name within `${` and `}`. It stands for the value of the variable
with that name, or for nothing where there is no such variable. Values that are put in are not
looked at again, and whatever only resembles a placeholder is left as it is.
-/

namespace SlotMachine

/-- The variables of an environment. -/
abbrev Environment := String → Option String

namespace Placeholder

def isNameStart (c : Char) : Bool := c.isAlpha || c = '_'

def isNameChar (c : Char) : Bool := c.isAlphanum || c = '_'

/-- A placeholder at the start of a text: its name, and what follows. -/
def atStart? : List Char → Option (List Char × List Char)
  | '$' :: '\x7b' :: c :: rest =>
    if isNameStart c then
      match rest.dropWhile isNameChar with
      | '\x7d' :: after => some (c :: rest.takeWhile isNameChar, after)
      | _ => none
    else none
  | _ => none

theorem length_dropWhile_le (p : Char → Bool) (cs : List Char) :
    (cs.dropWhile p).length ≤ cs.length :=
  (List.dropWhile_suffix p).length_le

theorem length_of_atStart? {cs name after : List Char} (h : atStart? cs = some (name, after)) :
    after.length < cs.length := by
  unfold atStart? at h
  split at h
  case h_1 c rest =>
    split at h
    case isTrue =>
      split at h
      case h_1 tail heq =>
        have := length_dropWhile_le isNameChar rest
        simp only [Option.some.injEq, Prod.mk.injEq] at h
        rw [heq, List.length_cons] at this
        rw [← h.2]
        simp only [List.length_cons]
        omega
      case h_2 => simp at h
    case isFalse => simp at h
  case h_2 => simp at h

/-- What stands for a placeholder with this name. -/
def valueOf (env : Environment) (name : List Char) : List Char :=
  ((env (String.ofList name)).getD "").toList

/-- Puts the values in, from left to right. -/
def expandChars (env : Environment) (cs : List Char) : List Char :=
  match _h : atStart? cs with
  | some (name, after) => valueOf env name ++ expandChars env after
  | none =>
    match cs with
    | [] => []
    | c :: rest => c :: expandChars env rest
termination_by cs.length
decreasing_by
  · exact length_of_atStart? ‹_›
  · simp

def expand (env : Environment) (text : String) : String :=
  String.ofList (expandChars env text.toList)

end Placeholder

end SlotMachine
