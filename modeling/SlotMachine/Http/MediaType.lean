/-!
# Media types

A media type names a type and a subtype, which may have a suffix after a plus sign; parameters may
follow, each with a value that may be quoted. Nothing in it depends on case.
-/

namespace SlotMachine

namespace Http

/-- The characters of a name or an unquoted value. -/
def isTokenChar (c : Char) : Bool :=
  c.isAlphanum || "!#$%&'*+-.^_\x60|~".toList.contains c

/-- What may stand within quotes. -/
def isQuotable (c : Char) : Bool := 31 < c.toNat && c.toNat ≠ 127

/-- Splits a list at the first element that does not satisfy `p`. -/
def spanChars (p : Char → Bool) (cs : List Char) : List Char × List Char :=
  (cs.takeWhile p, cs.dropWhile p)

/-- Whether a list of parameters is well-formed; blanks may stand before each name and after a
quoted value. -/
def parametersValid : Nat → List Char → Bool
  | 0, _ => false
  | fuel + 1, cs =>
    match cs with
    | [] => true
    | ' ' :: rest => parametersValid fuel rest
    | _ =>
      let (name, rest) := spanChars isTokenChar cs
      match name, rest with
      | _ :: _, '=' :: '"' :: rest =>
        let (value, rest) := spanChars (fun c => c ≠ '"' && isQuotable c) rest
        match value, rest with
        | _ :: _, '"' :: rest =>
          match rest.dropWhile (· = ' ') with
          | [] => true
          | ';' :: rest => parametersValid fuel rest
          | _ => false
        | _, _ => false
      | _ :: _, '=' :: rest =>
        let (value, rest) := spanChars isTokenChar rest
        match value, rest with
        | _, [] => true
        | _ :: _, ';' :: rest => parametersValid fuel rest
        | _, _ => false
      | _, _ => false

/-- A subtype without its suffix, and the suffix, which follows the last plus sign. -/
def splitSuffix (subtype : List Char) : List Char × Option (List Char) :=
  let suffix := (subtype.reverse.takeWhile (· ≠ '+')).reverse
  if suffix.length + 1 < subtype.length && subtype.contains '+' then
    (subtype.take (subtype.length - suffix.length - 1), some suffix)
  else (subtype, none)

/-- Whether a media type is that of JSON or one with the suffix for JSON. -/
def isJsonType (text : String) : Bool :=
  let cs := text.toList.map Char.toLower
  let (type, rest) := spanChars isTokenChar cs
  match rest with
  | '/' :: rest =>
    let (subtype, rest) := spanChars isTokenChar rest
    let parameters := match rest with
      | [] => true
      | ';' :: rest => parametersValid (rest.length + 1) rest
      | _ => false
    let (name, suffix) := splitSuffix subtype
    type == "application".toList && parameters && !subtype.isEmpty &&
      (name == "json".toList || suffix == some "json".toList)
  | _ => false

end Http

end SlotMachine
