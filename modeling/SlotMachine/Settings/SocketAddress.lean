import SlotMachine.Json.Syntax

/-!
# Socket addresses

An internet address of four bytes, or of eight groups in brackets with perhaps a scope, and the
number of a service at it. An address is written in its shortest form: the first of the longest runs
of zero groups is left out, and an address of four bytes within one of groups is written in bytes.
-/

namespace SlotMachine

inductive SocketAddress
  | v4 (bytes : List Nat) (service : Nat)
  | v6 (groups : List Nat) (scope service : Nat)
  deriving DecidableEq, Repr

namespace SocketAddress

/-! ### Reading -/

/-- A number in a base, and what follows. It is below `limit` and has at most `width` digits, the
first of which is zero only where `leadingZero` admits it or it is the only one. -/
def readNumber? (base limit : Nat) (width : Option Nat) (leadingZero : Bool) (cs : List Char) :
    Option (Nat × List Char) :=
  let digit? (c : Char) := (Json.hexValue? c).filter (· < base)
  let digits := cs.takeWhile (digit? · |>.isSome)
  let n := digits.foldl (fun n c => base * n + (digit? c).getD 0) 0
  if digits.isEmpty || limit ≤ n || width.any (· < digits.length) ||
      (!leadingZero && cs.head? = some '0' && 1 < digits.length) then none
  else some (n, cs.drop digits.length)

def readMark? (mark : Char) : List Char → Option (List Char)
  | c :: rest => if c = mark then some rest else none
  | [] => none

def readByte? : List Char → Option (Nat × List Char) := readNumber? 10 256 (some 3) false

/-- Four bytes with points between them. -/
def readBytes? (cs : List Char) : Option (List Nat × List Char) := do
  let (a, cs) ← readByte? cs
  let (b, cs) ← readByte? (← readMark? '.' cs)
  let (c, cs) ← readByte? (← readMark? '.' cs)
  let (d, cs) ← readByte? (← readMark? '.' cs)
  pure ([a, b, c, d], cs)

/-- Two groups out of four bytes. -/
def groupsOfBytes : List Nat → List Nat
  | [a, b, c, d] => [256 * a + b, 256 * c + d]
  | _ => []

/-- As many groups as there are, at most `room`, with colons between them; the last two may be
written as four bytes. Says also whether they are. -/
def readGroups (first : Bool) : Nat → List Char → List Nat × Bool × List Char
  | 0, cs => ([], false, cs)
  | room + 1, cs =>
    let start := if first then some cs else readMark? ':' cs
    match (if 0 < room then start.bind readBytes? else none) with
    | some (bytes, rest) => (groupsOfBytes bytes, true, rest)
    | none =>
      match start.bind (readNumber? 16 65536 (some 4) true) with
      | some (group, rest) =>
        let (groups, inBytes, rest) := readGroups false room rest
        (group :: groups, inBytes, rest)
      | none => ([], false, cs)

/-- Eight groups, of which a run of zeros may be left out. -/
def readAddress? (cs : List Char) : Option (List Nat × List Char) :=
  let (head, inBytes, rest) := readGroups true 8 cs
  if head.length = 8 then some (head, rest)
  else if inBytes then none
  else do
    let rest ← readMark? ':' (← readMark? ':' rest)
    let (tail, _, rest) := readGroups true (7 - head.length) rest
    pure (head ++ List.replicate (8 - head.length - tail.length) 0 ++ tail, rest)

/-- A colon and the number of a service at the end. -/
def readService? (cs : List Char) : Option Nat := do
  let (service, rest) ← readNumber? 10 65536 none true (← readMark? ':' cs)
  if rest.isEmpty then some service else none

def readV4? (cs : List Char) : Option SocketAddress := do
  let (bytes, cs) ← readBytes? cs
  pure (.v4 bytes (← readService? cs))

def readV6? (cs : List Char) : Option SocketAddress := do
  let (groups, cs) ← readAddress? (← readMark? '[' cs)
  let (scope, cs) ← match cs with
    | '%' :: cs => readNumber? 10 UInt32.size none true cs
    | cs => some (0, cs)
  pure (.v6 groups scope (← readService? (← readMark? ']' cs)))

def ofText? (text : String) : Option SocketAddress :=
  readV4? text.toList <|> readV6? text.toList

/-! ### Writing -/

def bytesText (bytes : List Nat) : String := String.intercalate "." (bytes.map toString)

def groupsText (groups : List Nat) : String :=
  String.intercalate ":" (groups.map fun g => String.ofList (Nat.toDigits 16 g))

/-- How many zeros a list starts with. -/
def zeros (groups : List Nat) : Nat := (groups.takeWhile (· = 0)).length

/-- The start and the length of the first of the longest runs of zeros. -/
def longestRun (groups : List Nat) : Nat × Nat :=
  (List.range groups.length).foldl (fun (start, length) i =>
    let run := zeros (groups.drop i)
    if length < run then (i, run) else (start, length)) (0, 0)

def addressText (groups : List Nat) : String :=
  match groups with
  | [0, 0, 0, 0, 0, 65535, a, b] =>
    "::ffff:" ++ bytesText [a / 256, a % 256, b / 256, b % 256]
  | _ =>
    let (start, length) := longestRun groups
    if 1 < length then
      groupsText (groups.take start) ++ "::" ++ groupsText (groups.drop (start + length))
    else groupsText groups

def text : SocketAddress → String
  | v4 bytes service => bytesText bytes ++ ":" ++ toString service
  | v6 groups scope service =>
    let scope := if scope = 0 then "" else "%" ++ toString scope
    "[" ++ addressText groups ++ scope ++ "]:" ++ toString service

end SocketAddress

end SlotMachine
