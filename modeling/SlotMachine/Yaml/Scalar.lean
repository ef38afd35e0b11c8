import SlotMachine.Json.Syntax

/-!
# YAML scalars

The three ways in which a single value is written: plain, in single quotes and in double quotes.
Where a scalar goes on over line breaks, the gap between two of its words is folded: a single line
break becomes a blank, and of several all but the first are kept.

Breaks are line feeds and the two Unicode separators; other breaks have been turned into line feeds
before (`Yaml.normalize`).
-/

namespace SlotMachine

namespace Yaml

/-- A place in a text: characters before it, line and column, each counted from zero. -/
structure Place where
  index : Nat := 0
  line : Nat := 0
  column : Nat := 0
  deriving DecidableEq, Repr

def isBreak (c : Char) : Bool := c = '\n' || c = '\u2028' || c = '\u2029'

def isSpace (c : Char) : Bool := c = ' ' || c = '\t'

def isGap (c : Char) : Bool := isSpace c || isBreak c

/-- Whether a text starts with a gap or is empty. -/
def atGap : List Char → Bool
  | [] => true
  | c :: _ => isGap c

namespace Place

/-- The place after a character. -/
def after (p : Place) (c : Char) : Place :=
  if isBreak c then ⟨p.index + 1, p.line + 1, 0⟩ else ⟨p.index + 1, p.line, p.column + 1⟩

def afterAll (p : Place) (cs : List Char) : Place := cs.foldl after p

end Place

/-- Three of the mark at the start of a line, with a gap after them. -/
def startsWithMark (mark : Char) : List Char → Bool
  | a :: b :: c :: rest => a = mark && b = mark && c = mark && atGap rest
  | _ => false

/-- Whether a line begins that starts or ends a document. -/
def atDocumentMark (p : Place) (cs : List Char) : Bool :=
  p.column = 0 && (startsWithMark '-' cs || startsWithMark '.' cs)

/-- What a gap that has line breaks stands for: these are its breaks. -/
def foldBreaks : List Char → List Char
  | [] => []
  | first :: more => if first = '\n' then (if more.isEmpty then [' '] else more) else first :: more

/-- What a gap within a scalar stands for. -/
def foldGap (gap : List Char) : List Char :=
  if gap.any isBreak then foldBreaks (gap.filter isBreak) else gap

/-! ### Plain scalars -/

/-- The indicators of flow collections. -/
def isFlowMark (c : Char) : Bool :=
  c = ',' || c = '[' || c = ']' || c = '\x7b' || c = '\x7d'

/-- A word of a plain scalar and what follows it. It ends before a gap or a colon with a gap, and
within a flow collection before its indicators; a colon right before one is an error there. -/
def plainWord? (inFlow : Bool) : List Char → Option (List Char × List Char)
  | [] => some ([], [])
  | c :: rest =>
    if isGap c then some ([], c :: rest)
    else if inFlow && c = ':' && rest.head?.any (fun d => isFlowMark d || d = '?') then none
    else if (c = ':' && atGap rest) || (inFlow && isFlowMark c) then some ([], c :: rest)
    else (plainWord? inFlow rest).map fun (word, rest) => (c :: word, rest)

/-- Whether a tab stands, after a line break, in a column before `indent`. -/
def hasEarlyTab (indent : Nat) (broken : Bool) (p : Place) : List Char → Bool
  | [] => false
  | c :: rest =>
    (c = '\t' && broken && p.column < indent) ||
      hasEarlyTab indent (broken || isBreak c) (p.after c) rest

/-- A scalar that has been read: its text, where it ends, what follows, and whether it ends with a
line break behind it. -/
structure Scanned where
  text : List Char
  place : Place
  rest : List Char
  broken : Bool

/-- Puts more text in front of a scalar. -/
def Scanned.prepend (text : List Char) (s : Scanned) : Scanned := { s with text := text ++ s.text }

/-- The words of a plain scalar from `cs` on, the first after what the `gap` before it stands for.
It goes on as long as the next word is indented to `indent`, which does not count within flow
collections. -/
def plainFrom? (inFlow : Bool) (indent : Nat) : Nat → List Char → Place → List Char →
    Option Scanned
  | 0, _, _, _ => none
  | fuel + 1, gap, p, cs =>
    let ended : Scanned := ⟨[], p, cs, gap.any isBreak⟩
    if atDocumentMark p cs || cs.head? = some '#' then some ended
    else do
      let (word, rest) ← plainWord? inFlow cs
      if word.isEmpty then some ended
      else
        let text := foldGap gap ++ word
        let p := p.afterAll word
        let gap := rest.takeWhile isGap
        let rest := rest.dropWhile isGap
        if gap.isEmpty then some ⟨text, p, rest, false⟩
        else if hasEarlyTab indent false p gap then none
        else
          let p := p.afterAll gap
          if !inFlow && p.column < indent then some ⟨text, p, rest, gap.any isBreak⟩
          else (plainFrom? inFlow indent fuel gap p rest).map (·.prepend text)

def plain? (inFlow : Bool) (indent : Nat) (p : Place) (cs : List Char) : Option Scanned :=
  plainFrom? inFlow indent (cs.length + 1) [] p cs

/-! ### Quoted scalars -/

/-- The value of hexadecimal digits. -/
def hexNumber? (digits : List Char) : Option Nat :=
  digits.foldlM (fun n c => (Json.hexValue? c).map (16 * n + ·)) 0

/-- The character that `count` hexadecimal digits tell. -/
def codePoint? (count : Nat) (cs : List Char) : Option (Char × List Char) := do
  let digits := cs.take count
  let n ← if digits.length = count then hexNumber? digits else none
  if n.isValidChar then some (Char.ofNat n, cs.drop count) else none

/-- The character for the letter of a short escape. -/
def shortEscape? (c : Char) : Option Char :=
  [('0', '\x00'), ('a', '\x07'), ('b', '\x08'), ('t', '\x09'), ('\t', '\x09'), ('n', '\x0a'),
    ('v', '\x0b'), ('f', '\x0c'), ('r', '\x0d'), ('e', '\x1b'), (' ', ' '), ('"', '"'), ('/', '/'),
    ('\\', '\\'), ('N', '\u0085'), ('_', '\u00a0'), ('L', '\u2028'), ('P', '\u2029')].lookup c

/-- The character of an escape after its backslash. -/
def escape? : List Char → Option (Char × List Char)
  | 'x' :: rest => codePoint? 2 rest
  | 'u' :: rest => codePoint? 4 rest
  | 'U' :: rest => codePoint? 8 rest
  | c :: rest => (shortEscape? c).map (·, rest)
  | [] => none

/-- How a word within quotes ends. -/
inductive WordEnd
  | quote
  | gap
  | escapedBreak
  deriving DecidableEq, Repr

/-- A word within quotes, how it ends and what follows. Two single quotes stand for one, and between
double quotes a backslash starts an escape. -/
def quotedWord? (double : Bool) : Nat → List Char → Option (List Char × WordEnd × List Char)
  | 0, _ => none
  | _, [] => none
  | fuel + 1, c :: rest =>
    let more (c : Char) (rest : List Char) :=
      (quotedWord? double fuel rest).map fun (word, ending, rest) => (c :: word, ending, rest)
    if isGap c then some ([], .gap, c :: rest)
    else if double then
      if c = '"' then some ([], .quote, rest)
      else if c = '\\' then
        if rest.head?.any isBreak then some ([], .escapedBreak, rest.drop 1)
        else (escape? rest).bind fun (c, rest) => more c rest
      else more c rest
    else if c = '\'' then
      if rest.head? = some '\'' then more '\'' (rest.drop 1) else some ([], .quote, rest)
    else more c rest

/-- The place after the part of `cs` that comes before its end `rest`. -/
def Place.upTo (p : Place) (cs rest : List Char) : Place :=
  p.afterAll (cs.take (cs.length - rest.length))

/-- What follows the opening quote, up to the closing one. -/
def quotedFrom? (double : Bool) : Nat → Place → List Char → Option Scanned
  | 0, _, _ => none
  | fuel + 1, p, cs => do
    if atDocumentMark p cs then none
    let (word, ending, rest) ← quotedWord? double (fuel + 1) cs
    let p := p.upTo cs rest
    let gap := rest.takeWhile isGap
    let go (text : List Char) : Option Scanned :=
      (quotedFrom? double fuel (p.afterAll gap) (rest.dropWhile isGap)).map (·.prepend text)
    match ending with
    | .quote => some ⟨word, p, rest, false⟩
    | .gap => go (word ++ foldGap gap)
    | .escapedBreak => go (word ++ gap.filter isBreak)

def quoted? (double : Bool) (p : Place) (cs : List Char) : Option Scanned :=
  quotedFrom? double (cs.length + 1) p cs

end Yaml

end SlotMachine
