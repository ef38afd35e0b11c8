import SlotMachine.Instant
import SlotMachine.Text.Blank

/-!
# Instants as text

Instants are written in coordinated universal time: date, `T`, time, a fraction of the second and
`Z`. They are read with any offset, and more freely than they are written: numbers may be shorter,
blanks may stand before them, and the date may be followed by a blank.
-/

namespace SlotMachine

namespace Instant

/-- A number in at least `width` digits. -/
def padded (width n : Nat) : String :=
  let digits := Nat.toDigits 10 n
  String.ofList (List.replicate (width - digits.length) '0' ++ digits)

/-- Four digits, and a sign for years that need more or come before year zero. -/
def yearText (year : Int) : String :=
  if 0 ≤ year ∧ year ≤ 9999 then padded 4 year.toNat
  else (if year < 0 then "-" else "+") ++ padded 4 year.natAbs

/-- Everything before the fraction of the second. -/
def clockText (i : Instant) : String :=
  let date := Date.ofDays (i.seconds / 86400)
  let second := (i.seconds % 86400).toNat
  let leap := if i.nanos < 1000000000 then 0 else 1
  yearText date.year ++ "-" ++ padded 2 date.month ++ "-" ++ padded 2 date.day ++ "T" ++
    padded 2 (second / 3600) ++ ":" ++ padded 2 (second / 60 % 60) ++ ":" ++
    padded 2 (second % 60 + leap)

/-- The fraction of the second in none, three, six or nine digits, the fewest that lose nothing. -/
def fractionText (i : Instant) : String :=
  let nanos := i.nanos % 1000000000
  if nanos = 0 then ""
  else if nanos % 1000000 = 0 then "." ++ padded 3 (nanos / 1000000)
  else if nanos % 1000 = 0 then "." ++ padded 6 (nanos / 1000)
  else "." ++ padded 9 nanos

/-- The text of an instant, with nothing lost. -/
def text (i : Instant) : String := i.clockText ++ i.fractionText ++ "Z"

/-- The text of an instant in six digits after the second, the rest cut off. -/
def microText (i : Instant) : String :=
  i.clockText ++ "." ++ padded 6 (i.nanos % 1000000000 / 1000) ++ "Z"

/-! ### Reading -/

/-- The digits at the start of a text, at most `limit` of them, and what follows. -/
def spanDigits (limit : Nat) (cs : List Char) : List Char × List Char :=
  match limit, cs with
  | limit + 1, c :: rest =>
    if c.isDigit then
      let (digits, rest) := spanDigits limit rest
      (c :: digits, rest)
    else ([], c :: rest)
  | _, _ => ([], cs)

/-- The number that digits write. -/
def ofDigits (digits : List Char) : Nat :=
  digits.foldl (fun n c => 10 * n + (c.toNat - '0'.toNat)) 0

/-- A number of at most `limit` digits. -/
def readNumber? (limit : Nat) (cs : List Char) : Option (Nat × List Char) :=
  match spanDigits limit cs with
  | ([], _) => none
  | (digits, rest) => some (ofDigits digits, rest)

/-- A number after blanks. -/
def readField? (limit : Nat) (cs : List Char) : Option (Nat × List Char) :=
  readNumber? limit (cs.dropWhile isBlank)

/-- A year after blanks: up to four digits, or a sign and any number of them. -/
def readYear? (cs : List Char) : Option (Int × List Char) :=
  match cs.dropWhile isBlank with
  | '-' :: rest => (readNumber? rest.length rest).map fun (n, rest) => (-(n : Int), rest)
  | '+' :: rest => (readNumber? rest.length rest).map fun (n, rest) => ((n : Int), rest)
  | rest => (readNumber? 4 rest).map fun (n, rest) => ((n : Int), rest)

/-- A mark that blanks may precede. -/
def readMark? (mark : Char) (cs : List Char) : Option (List Char) :=
  match cs.dropWhile isBlank with
  | c :: rest => if c = mark then some rest else none
  | [] => none

/-- The nanoseconds of a fraction; digits after the ninth do not count. -/
def readFraction? (cs : List Char) : Option (Nat × List Char) :=
  match cs with
  | '.' :: rest =>
    match spanDigits 9 rest with
    | ([], _) => none
    | (digits, rest) =>
      some (ofDigits digits * Nat.pow 10 (9 - digits.length), rest.dropWhile Char.isDigit)
  | _ => some (0, cs)

/-- Two digits. -/
def readPair? (cs : List Char) : Option (Nat × List Char) :=
  match spanDigits 2 cs with
  | ([a, b], rest) => some (ofDigits [a, b], rest)
  | _ => none

/-- The offset from universal time in seconds: `Z`, `UTC`, or a sign, hours and minutes. -/
def readOffset? (cs : List Char) : Option (Int × List Char) :=
  match cs with
  | a :: b :: c :: rest =>
    if [a, b, c].map Char.toUpper = ['U', 'T', 'C'] then some (0, rest) else zone cs
  | _ => zone cs
where
  zone : List Char → Option (Int × List Char)
    | 'Z' :: rest => some (0, rest)
    | 'z' :: rest => some (0, rest)
    | '+' :: rest => shift 1 rest
    | '-' :: rest => shift (-1) rest
    | '−' :: rest => shift (-1) rest
    | _ => none
  shift (sign : Int) (cs : List Char) : Option (Int × List Char) := do
    let (hours, rest) ← readPair? cs
    let (minutes, rest) ← readPair? (rest.dropWhile fun c => c = ':' || isBlank c)
    if minutes < 60 then some (sign * (3600 * hours + 60 * minutes : Nat), rest) else none

/-- The instant that a text tells. -/
def ofText? (text : String) : Option Instant := do
  let (year, rest) ← readYear? text.toList
  let rest ← readMark? '-' rest
  let (month, rest) ← readField? 2 rest
  let rest ← readMark? '-' rest
  let (day, rest) ← readField? 2 rest
  let rest ← match rest with
    | c :: rest => if c = 'T' ∨ c = 't' ∨ c = ' ' then some rest else none
    | [] => none
  let (hour, rest) ← readField? 2 rest
  let rest ← readMark? ':' rest
  let (minute, rest) ← readField? 2 rest
  let rest ← readMark? ':' rest
  let (second, rest) ← readField? 2 rest
  let (nanos, rest) ← readFraction? rest
  let (offset, rest) ← readOffset? (rest.dropWhile isBlank)
  let date : Date := ⟨year, month, day⟩
  let leap := second = 60
  let clock := 3600 * hour + 60 * minute + if leap then 59 else second
  let instant : Instant :=
    ⟨date.toDays * 86400 + clock - offset, if leap then nanos + 1000000000 else nanos⟩
  if rest.all isBlank ∧ date.isValid ∧ -262143 ≤ year ∧ year ≤ 262142 ∧ hour < 24 ∧ minute < 60 ∧
      second ≤ 60 ∧ -86400 < offset ∧ offset < 86400 ∧
      earliest.seconds ≤ instant.seconds ∧ instant.seconds ≤ latestSecond then
    some instant
  else none

end Instant

end SlotMachine
