import SlotMachine.Yaml.Scalar

/-!
# YAML tokens

A text is cut into tokens from left to right. Block collections have no brackets of their own: the
tokens that open and close them follow from the columns in which their entries stand. That something
is a key is known only at the colon behind it; so the place where a key could begin is kept as a
candidate, and at the colon the token of a key is put there afterwards. A candidate is given up when
its line ends or after 1024 characters.

Directives, anchors, aliases, tags and block scalars are not part of the format.
-/

namespace SlotMachine

namespace Yaml

inductive Token
  | documentStart
  | documentEnd
  | blockList
  | blockMap
  | blockEnd
  | listOpen
  | listClose
  | mapOpen
  | mapClose
  | item
  | separator
  | key
  | value
  | scalar (text : String) (plain : Bool)
  deriving DecidableEq, Repr

/-- A place where a key may have begun. -/
structure Candidate where
  place : Place
  /-- How many tokens come before it. -/
  tokens : Nat
  /-- Whether nothing but a key may stand there. -/
  required : Bool

/-- The state of the cutting. -/
structure Scanner where
  rest : List Char
  place : Place := {}
  /-- The tokens so far, the last one first. -/
  tokens : List Token := []
  /-- The columns of the open block collections, the innermost first. -/
  indents : List Nat := []
  /-- Whether a key may begin here. -/
  keyAllowed : Bool := true
  /-- The candidate outside flow collections. -/
  candidate : Option Candidate := none
  /-- The candidates around and within each open flow collection but the innermost one's, which is
  `candidate`. -/
  outer : List (Option Candidate) := []

namespace Scanner

variable (s : Scanner)

def inFlow : Bool := !s.outer.isEmpty

def emit (token : Token) : Scanner := { s with tokens := token :: s.tokens }

/-- Passes over some characters. -/
def skip (count : Nat) : Scanner :=
  { s with rest := s.rest.drop count, place := s.place.afterAll (s.rest.take count) }

/-- Puts a token before all but the first `count` tokens. -/
def insert (count : Nat) (token : Token) : Scanner :=
  let later := s.tokens.length - count
  { s with tokens := s.tokens.take later ++ token :: s.tokens.drop later }

/-! ### Candidates for keys -/

/-- Drops the candidate; a required one must not be dropped. -/
def dropCandidate? : Option Scanner :=
  if s.candidate.any (·.required) then none else some { s with candidate := none }

/-- A candidate that is still in reach. -/
def fresh? (place : Place) : Option Candidate → Option (Option Candidate)
  | none => some none
  | some c =>
    if c.place.line < place.line || c.place.index + 1024 < place.index then
      if c.required then none else some none
    else some (some c)

/-- Drops all candidates that are out of reach. -/
def dropStale? : Option Scanner := do
  let candidate ← fresh? s.place s.candidate
  let outer ← s.outer.mapM (fresh? s.place)
  pure { s with candidate, outer }

/-- Notes that a key may begin here. -/
def markCandidate? : Option Scanner :=
  if s.keyAllowed then do
    let required := !s.inFlow && s.indents.head? == some s.place.column
    let s ← s.dropCandidate?
    pure { s with candidate := some ⟨s.place, s.tokens.length, required⟩ }
  else some s

/-! ### Block collections -/

/-- Closes the block collections whose columns are not among those to `keep`. -/
def closeBlocks (keep : Nat → Bool) : Scanner :=
  if s.inFlow then s
  else
    let closed := s.indents.takeWhile (!keep ·)
    { s with
      indents := s.indents.dropWhile (!keep ·)
      tokens := closed.map (fun _ => Token.blockEnd) ++ s.tokens }

/-- Opens a block collection in a column to the right of all open ones; its token comes after the
first `count`. -/
def openBlock (column count : Nat) (token : Token) : Scanner :=
  if s.inFlow || s.indents.head?.any (column ≤ ·) then s
  else { s.insert count token with indents := column :: s.indents }

/-! ### Tokens -/

/-- What follows after blanks, comments and line breaks; after a line break a key may begin. -/
def toToken (inFlow : Bool) (comment keyAllowed : Bool) (p : Place) :
    List Char → List Char × Place × Bool
  | [] => ([], p, keyAllowed)
  | c :: rest =>
    if isBreak c then toToken inFlow false (keyAllowed || !inFlow) (p.after c) rest
    else if comment || c = ' ' || (c = '\t' && (inFlow || !keyAllowed)) then
      toToken inFlow comment keyAllowed (p.after c) rest
    else if c = '#' then toToken inFlow true keyAllowed (p.after c) rest
    else (c :: rest, p, keyAllowed)

/-- The end of the text, at which all collections end. -/
def finish? : Option Scanner := do
  let s ← (s.closeBlocks fun _ => false).dropCandidate?
  pure { s with keyAllowed := false }

def documentMark? (token : Token) : Option Scanner := do
  let s ← (s.closeBlocks fun _ => false).dropCandidate?
  pure (({ s with keyAllowed := false }.skip 3).emit token)

/-- An opening bracket or brace; it may begin a key. -/
def openFlow? (token : Token) : Option Scanner := do
  let s ← s.markCandidate?
  let s := { s with outer := s.candidate :: s.outer, candidate := none, keyAllowed := true }
  pure ((s.skip 1).emit token)

def closeFlow? (token : Token) : Option Scanner := do
  let s ← s.dropCandidate?
  let s := { s with candidate := s.outer.head?.join, outer := s.outer.tail, keyAllowed := false }
  pure ((s.skip 1).emit token)

def separator? : Option Scanner := do
  let s ← s.dropCandidate?
  pure (({ s with keyAllowed := true }.skip 1).emit .separator)

/-- Opens a block collection in this column for an entry, where one may begin. -/
def openHere? (token : Token) : Option Scanner :=
  if s.inFlow then some s
  else if s.keyAllowed then some (s.openBlock s.place.column s.tokens.length token)
  else none

def item? : Option Scanner := do
  let s ← s.openHere? .blockList
  let s ← s.dropCandidate?
  pure (({ s with keyAllowed := true }.skip 1).emit .item)

def key? : Option Scanner := do
  let s ← s.openHere? .blockMap
  let s ← s.dropCandidate?
  pure (({ s with keyAllowed := !s.inFlow }.skip 1).emit .key)

/-- A colon. If there is a candidate it was a key, and a block mapping may begin with it. -/
def value? : Option Scanner :=
  match s.candidate with
  | some c =>
    let s := s.insert c.tokens .key
    let s := s.openBlock c.place.column c.tokens .blockMap
    some (({ s with candidate := none, keyAllowed := false }.skip 1).emit .value)
  | none => do
    let s ← s.openHere? .blockMap
    pure (({ s with keyAllowed := !s.inFlow }.skip 1).emit .value)

def takeScanned (scanned : Scanned) (plain : Bool) : Scanner :=
  { s with
    rest := scanned.rest, place := scanned.place, keyAllowed := scanned.broken,
    tokens := .scalar (String.ofList scanned.text) plain :: s.tokens }

def quoted? (double : Bool) : Option Scanner := do
  let s ← s.markCandidate?
  let s := s.skip 1
  let scanned ← Yaml.quoted? double s.place s.rest
  pure (s.takeScanned scanned false)

def plain? : Option Scanner := do
  let s ← s.markCandidate?
  let indent := (s.indents.head?.map (· + 1)).getD 0
  let scanned ← Yaml.plain? s.inFlow indent s.place s.rest
  pure (s.takeScanned scanned true)

/-- Whether a plain scalar may begin with this character. -/
def startsPlain (inFlow : Bool) (c : Char) (rest : List Char) : Bool :=
  if c = '-' then !atGap rest
  else if c = '?' || c = ':' then !inFlow && !atGap rest
  else !isGap c && !"-?:,[]\x7b\x7d#&*!|>'\"%@\x60".toList.contains c

/-- Cuts off the next token; `c :: rest` is the text from there on. -/
def next? (c : Char) (rest : List Char) : Option Scanner :=
  if s.place.column = 0 && c = '%' then none
  else if s.place.column = 0 && startsWithMark '-' (c :: rest) then s.documentMark? .documentStart
  else if s.place.column = 0 && startsWithMark '.' (c :: rest) then s.documentMark? .documentEnd
  else if c = '[' then s.openFlow? .listOpen
  else if c = '\x7b' then s.openFlow? .mapOpen
  else if c = ']' then s.closeFlow? .listClose
  else if c = '\x7d' then s.closeFlow? .mapClose
  else if c = ',' then s.separator?
  else if c = '-' && atGap rest then s.item?
  else if c = '?' && (s.inFlow || atGap rest) then s.key?
  else if c = ':' && (s.inFlow || atGap rest) then s.value?
  else if c = '\'' then s.quoted? false
  else if c = '"' then s.quoted? true
  else if startsPlain s.inFlow c rest then s.plain?
  else none

/-- Cuts the whole text. -/
def run? : Nat → Scanner → Option Scanner
  | 0, _ => none
  | fuel + 1, s => do
    let (rest, place, keyAllowed) := toToken s.inFlow false s.keyAllowed s.place s.rest
    let s ← { s with rest, place, keyAllowed }.dropStale?
    match s.rest with
    | [] => s.finish?
    | c :: rest =>
      let s := s.closeBlocks (· ≤ s.place.column)
      run? fuel (← s.next? c rest)

end Scanner

/-! ### Texts -/

/-- The characters that may stand in a text. -/
def isPrintable (c : Char) : Bool :=
  let n := c.val
  n == 0x9 || n == 0xA || n == 0xD || (0x20 ≤ n && n ≤ 0x7E) || n == 0x85 ||
    (0xA0 ≤ n && n ≤ 0xFFFD) || 0x10000 ≤ n

/-- Every break but the two Unicode separators becomes a line feed. -/
def normalize : List Char → List Char
  | '\r' :: '\n' :: rest => '\n' :: normalize rest
  | '\r' :: rest => '\n' :: normalize rest
  | '\u0085' :: rest => '\n' :: normalize rest
  | c :: rest => c :: normalize rest
  | [] => []

/-- The tokens of a text, which may start with a byte order mark. -/
def tokens? (text : String) : Option (List Token) := do
  let chars := match text.toList with
    | '\ufeff' :: rest => rest
    | chars => chars
  if chars.all isPrintable then
    let chars := normalize chars
    let s ← Scanner.run? (chars.length + 1) { rest := chars }
    pure s.tokens.reverse
  else none

end Yaml

end SlotMachine
