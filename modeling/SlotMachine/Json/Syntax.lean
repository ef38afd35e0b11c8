import SlotMachine.Json.Number

/-!
# JSON syntax

What a text says as JSON, up to the place where it stops being JSON. A text that is not JSON still
has a tree: a value that is not well-formed is `broken`, and a list or object that breaks off is not
`closed`. So whoever reads the tree from left to right meets the first fault of the text where it
is. A string that cannot be text, as it has half a surrogate pair or bytes that are not UTF-8, is a
string all the same: only a reader who wants to know it will mind.
-/

namespace SlotMachine

/-- A text from outside; `none` stands for a byte that is not part of UTF-8. -/
abbrev Source := List (Option Char)

namespace Source

def ofString (text : String) : Source := text.toList.map some

/-- A byte after the first of a character. -/
def isContinuation (b : UInt8) : Bool := b &&& 0xC0 == 0x80

/-- The character that starts a list of bytes, with the number of its bytes. -/
def firstChar? (bytes : List UInt8) : Option (Char × Nat) :=
  match bytes with
  | a :: rest =>
    let bits (mask : UInt8) := (a &&& mask).toNat
    let tail (count : Nat) : Option Nat :=
      let following := rest.take count
      if following.length = count ∧ following.all isContinuation then
        some (following.foldl (fun n b => 64 * n + (b &&& 0x3F).toNat) 0)
      else none
    let char (least n count : Nat) : Option (Char × Nat) :=
      if least ≤ n ∧ n.isValidChar then some (Char.ofNat n, count) else none
    if a < 0x80 then some (Char.ofNat a.toNat, 1)
    else if a &&& 0xE0 == 0xC0 then (tail 1).bind fun n => char 0x80 (bits 0x1F * 64 + n) 2
    else if a &&& 0xF0 == 0xE0 then (tail 2).bind fun n => char 0x800 (bits 0x0F * 4096 + n) 3
    else if a &&& 0xF8 == 0xF0 then (tail 3).bind fun n => char 0x10000 (bits 0x07 * 262144 + n) 4
    else none
  | [] => none

/-- The characters of a list of bytes. The bytes of a character after its first are skipped. -/
def decodeFrom (skip : Nat) : List UInt8 → Source
  | [] => []
  | b :: rest =>
    match skip with
    | skip + 1 => decodeFrom skip rest
    | 0 =>
      match firstChar? (b :: rest) with
      | some (c, count) => some c :: decodeFrom (count - 1) rest
      | none => none :: decodeFrom 0 rest

def ofBytes (bytes : List UInt8) : Source := decodeFrom 0 bytes

/-- The text of a source without foreign bytes. -/
def toString? (source : Source) : Option String :=
  (source.mapM id).map String.ofList

end Source

namespace Json

inductive Node
  | null
  | bool (value : Bool)
  | number (literal : NumberLiteral)
  | string (text : Option String)
  | array (items : List Node) (closed : Bool)
  | object (members : List (Option String × Node)) (closed : Bool)
  | broken
  deriving Inhabited

def isJsonBlank : Option Char → Bool
  | some c => c = ' ' || c = '\t' || c = '\n' || c = '\r'
  | none => false

def skipBlank (source : Source) : Source := source.dropWhile isJsonBlank

/-- The source after a word, if it starts with it. -/
def skipWord? : List Char → Source → Option Source
  | [], source => some source
  | c :: word, some d :: source => if c = d then skipWord? word source else none
  | _, _ => none

/-! ### Numbers -/

def isDigit : Option Char → Bool
  | some c => c.isDigit
  | none => false

/-- The digits at the start of a source, and the rest. -/
def takeDigits : Source → List Char × Source
  | some c :: source =>
    if c.isDigit then
      let (digits, rest) := takeDigits source
      (c :: digits, rest)
    else ([], some c :: source)
  | source => ([], source)

/-- The digits at the start of a source, of which there must be one. -/
def takeDigits? (source : Source) : Option (List Char × Source) :=
  match takeDigits source with
  | ([], _) => none
  | (digits, rest) => some (digits, rest)

/-- Digits without a needless zero in front. -/
def readWhole? (source : Source) : Option (List Char × Source) :=
  match source with
  | some '0' :: rest => if (rest.head?.any isDigit) then none else some (['0'], rest)
  | _ => takeDigits? source

def readFraction? (source : Source) : Option (Option (List Char) × Source) :=
  match source with
  | some '.' :: rest => (takeDigits? rest).map fun (digits, rest) => (some digits, rest)
  | _ => some (none, source)

def readExponent? (source : Source) : Option (Option (Bool × List Char) × Source) :=
  match source with
  | some c :: rest =>
    if c = 'e' ∨ c = 'E' then
      match rest with
      | some '-' :: rest => signed true rest
      | some '+' :: rest => signed false rest
      | _ => signed false rest
    else some (none, source)
  | _ => some (none, source)
where
  signed (negative : Bool) (source : Source) : Option (Option (Bool × List Char) × Source) :=
    (takeDigits? source).map fun (digits, rest) => (some (negative, digits), rest)

def readNumber? (source : Source) : Option (NumberLiteral × Source) := do
  let (negative, rest) := match source with
    | some '-' :: rest => (true, rest)
    | _ => (false, source)
  let (whole, rest) ← readWhole? rest
  let (fraction, rest) ← readFraction? rest
  let (exponent, rest) ← readExponent? rest
  pure ({ negative, whole, fraction, exponent }, rest)

/-! ### Strings -/

/-- The value of a hexadecimal digit. -/
def hexValue? (c : Char) : Option Nat :=
  if c.isDigit then some (c.toNat - '0'.toNat)
  else if 'a' ≤ c ∧ c ≤ 'f' then some (c.toNat - 'a'.toNat + 10)
  else if 'A' ≤ c ∧ c ≤ 'F' then some (c.toNat - 'A'.toNat + 10)
  else none

/-- The number that four hexadecimal digits write. -/
def unit? (a b c d : Char) : Option Nat := do
  pure ((← hexValue? a) * 4096 + (← hexValue? b) * 256 + (← hexValue? c) * 16 + (← hexValue? d))

/-- The character for the letter of a short escape. -/
def shortEscape? (c : Char) : Option Char :=
  if c = '"' then some '"'
  else if c = '\\' then some '\\'
  else if c = '/' then some '/'
  else if c = 'b' then some '\x08'
  else if c = 'f' then some '\x0c'
  else if c = 'n' then some '\n'
  else if c = 'r' then some '\r'
  else if c = 't' then some '\t'
  else none

/-- A piece of a string: a character, half of a surrogate pair, or a byte that is no character. -/
inductive Piece
  | char (c : Char)
  | unit (n : Nat)
  | foreign
  deriving DecidableEq

/-- What a unit of sixteen bits is a piece of. -/
def Piece.ofUnit (n : Nat) : Piece :=
  if n.isValidChar then char (Char.ofNat n) else unit n

/-- The pieces of a string up to its closing quote, and what follows. -/
def readPieces? : Source → Option (List Piece × Source)
  | [] => none
  | none :: rest => do
    let (pieces, rest) ← readPieces? rest
    pure (.foreign :: pieces, rest)
  | some '"' :: rest => some ([], rest)
  | some '\\' :: some 'u' :: some a :: some b :: some c :: some d :: rest => do
    let n ← unit? a b c d
    let (pieces, rest) ← readPieces? rest
    pure (.ofUnit n :: pieces, rest)
  | some '\\' :: some c :: rest => do
    let c ← shortEscape? c
    let (pieces, rest) ← readPieces? rest
    pure (.char c :: pieces, rest)
  | some '\\' :: _ => none
  | some c :: rest =>
    if c.toNat < 0x20 then none
    else do
      let (pieces, rest) ← readPieces? rest
      pure (.char c :: pieces, rest)

/-- The text of pieces in which each half pair is followed by its other half. -/
def Piece.toChars? : List Piece → Option (List Char)
  | [] => some []
  | .char c :: rest => (toChars? rest).map (c :: ·)
  | .unit high :: .unit low :: rest =>
    if high < 0xDC00 ∧ 0xDC00 ≤ low then
      (toChars? rest).map (Char.ofNat (0x10000 + (high - 0xD800) * 1024 + (low - 0xDC00)) :: ·)
    else none
  | _ => none

/-- A string after its opening quote, and what follows it. -/
def readString? (source : Source) : Option (Option String × Source) :=
  (readPieces? source).map fun (pieces, rest) =>
    ((Piece.toChars? pieces).map String.ofList, rest)

/-! ### Values -/

namespace Node

mutual

/-- The value at the start of a source, and what follows it; nothing follows what breaks off. -/
def read : Nat → Source → Node × Source
  | 0, _ => (broken, [])
  | fuel + 1, source =>
    match skipBlank source with
    | some '\x7b' :: rest =>
      match skipBlank rest with
      | some '\x7d' :: rest => (object [] true, rest)
      | rest =>
        let (members, closed, rest) := readMembers fuel rest
        (object members closed, rest)
    | some '[' :: rest =>
      match skipBlank rest with
      | some ']' :: rest => (array [] true, rest)
      | rest =>
        let (items, closed, rest) := readItems fuel rest
        (array items closed, rest)
    | some '"' :: rest =>
      match readString? rest with
      | some (text, rest) => (string text, rest)
      | none => (broken, [])
    | source =>
      match skipWord? "null".toList source with
      | some rest => (null, rest)
      | none =>
      match skipWord? "true".toList source with
      | some rest => (bool true, rest)
      | none =>
      match skipWord? "false".toList source with
      | some rest => (bool false, rest)
      | none =>
      match readNumber? source with
      | some (literal, rest) => (number literal, rest)
      | none => (broken, [])

/-- Items up to the closing bracket. -/
def readItems : Nat → Source → List Node × Bool × Source
  | 0, _ => ([], false, [])
  | fuel + 1, source =>
    let (item, rest) := read fuel source
    match skipBlank rest with
    | some ',' :: rest =>
      match skipBlank rest with
      | some ']' :: _ => ([item], false, [])
      | rest =>
        let (items, closed, rest) := readItems fuel rest
        (item :: items, closed, rest)
    | some ']' :: rest => ([item], true, rest)
    | _ => ([item], false, [])

/-- Members up to the closing brace. -/
def readMembers : Nat → Source → List (Option String × Node) × Bool × Source
  | 0, _ => ([], false, [])
  | fuel + 1, source =>
    match source with
    | some '"' :: rest =>
      match readString? rest with
      | none => ([], false, [])
      | some (key, rest) =>
      match skipBlank rest with
      | some ':' :: rest =>
        let (value, rest) := read fuel rest
        match skipBlank rest with
        | some ',' :: rest =>
          match skipBlank rest with
          | some '\x7d' :: _ => ([(key, value)], false, [])
          | rest =>
            let (members, closed, rest) := readMembers fuel rest
            ((key, value) :: members, closed, rest)
        | some '\x7d' :: rest => ([(key, value)], true, rest)
        | _ => ([(key, value)], false, [])
      | _ => ([(key, broken)], false, [])
    | _ => ([], false, [])

end

/-- The value of a whole source, and whether nothing but blanks follows it. -/
def ofSource (source : Source) : Node × Bool :=
  let (node, rest) := read (2 * source.length + 2) source
  (node, (skipBlank rest).isEmpty)

end Node

end Json

end SlotMachine
