import SlotMachine.Yaml.Token

/-!
# YAML documents

The tree of a document: scalars, lists and mappings. What is left out, such as the value of a key
with nothing behind it, is an empty plain scalar. A text has one document.
-/

namespace SlotMachine

namespace Yaml

inductive Node
  | scalar (text : String) (plain : Bool)
  | list (items : List Node)
  | map (entries : List (Node × Node))
  deriving Inhabited

namespace Node

def empty : Node := .scalar "" true

mutual

/-- A node and the tokens after it. In a `block` there may be block collections; the value of a key
may also be a list whose items stand in the column of the key. -/
def read? (block afterKey : Bool) : Nat → List Token → Option (Node × List Token)
  | 0, _ => none
  | fuel + 1, tokens =>
    match tokens with
    | .scalar text plain :: rest => some (.scalar text plain, rest)
    | .listOpen :: rest => (listItems? true fuel rest).map fun (items, rest) => (.list items, rest)
    | .mapOpen :: rest => (mapEntries? true fuel rest).map fun (es, rest) => (.map es, rest)
    | .blockList :: rest =>
      if block then (blockItems? fuel rest).map fun (items, rest) => (.list items, rest) else none
    | .blockMap :: rest =>
      if block then (blockEntries? fuel rest).map fun (es, rest) => (.map es, rest) else none
    | .item :: _ =>
      if afterKey then (flatItems? fuel tokens).map fun (items, rest) => (.list items, rest)
      else none
    | _ => none

/-- A node, or nothing before one of the tokens that `ends` names. -/
def readOr? (block afterKey : Bool) (ends : List Token) : Nat → List Token →
    Option (Node × List Token)
  | 0, _ => none
  | fuel + 1, tokens =>
    if tokens.head?.any (ends.contains ·) then some (empty, tokens)
    else read? block afterKey fuel tokens

/-- The items of a block list up to its end. -/
def blockItems? : Nat → List Token → Option (List Node × List Token)
  | 0, _ => none
  | fuel + 1, tokens =>
    match tokens with
    | .item :: rest => do
      let (item, rest) ← readOr? true false [.item, .blockEnd] fuel rest
      let (items, rest) ← blockItems? fuel rest
      pure (item :: items, rest)
    | .blockEnd :: rest => some ([], rest)
    | _ => none

/-- The items of a list in the column of its key; whatever else comes is its end. -/
def flatItems? : Nat → List Token → Option (List Node × List Token)
  | 0, _ => none
  | fuel + 1, tokens =>
    match tokens with
    | .item :: rest => do
      let (item, rest) ← readOr? true false [.item, .key, .value, .blockEnd] fuel rest
      let (items, rest) ← flatItems? fuel rest
      pure (item :: items, rest)
    | _ => some ([], tokens)

/-- The entries of a block mapping up to its end. -/
def blockEntries? : Nat → List Token → Option (List (Node × Node) × List Token)
  | 0, _ => none
  | fuel + 1, tokens =>
    match tokens with
    | .key :: rest => do
      let (key, rest) ← readOr? true true [.key, .value, .blockEnd] fuel rest
      let (value, rest) ← valueOr? true [.key, .value, .blockEnd] fuel rest
      let (entries, rest) ← blockEntries? fuel rest
      pure ((key, value) :: entries, rest)
    | .blockEnd :: rest => some ([], rest)
    | _ => none

/-- The value behind a colon, or nothing if there is no colon. -/
def valueOr? (block : Bool) (ends : List Token) : Nat → List Token → Option (Node × List Token)
  | 0, _ => none
  | fuel + 1, tokens =>
    match tokens with
    | .value :: rest => readOr? block block ends fuel rest
    | _ => some (empty, tokens)

/-- The items of a list in brackets. An item with a colon is a mapping with one entry. -/
def listItems? (first : Bool) : Nat → List Token → Option (List Node × List Token)
  | 0, _ => none
  | fuel + 1, tokens =>
    match tokens with
    | .listClose :: rest => some ([], rest)
    | _ => do
      let tokens ← if first then some tokens else
        match tokens with
        | .separator :: rest => some rest
        | _ => none
      match tokens with
      | .listClose :: rest => some ([], rest)
      | .key :: rest =>
        let (key, rest) ← read? false false fuel rest
        let (value, rest) ← valueOr? false [.separator, .listClose] fuel rest
        let (items, rest) ← listItems? false fuel rest
        pure (.map [(key, value)] :: items, rest)
      | _ =>
        let (item, rest) ← read? false false fuel tokens
        let (items, rest) ← listItems? false fuel rest
        pure (item :: items, rest)

/-- The entries of a mapping in braces. -/
def mapEntries? (first : Bool) : Nat → List Token → Option (List (Node × Node) × List Token)
  | 0, _ => none
  | fuel + 1, tokens =>
    match tokens with
    | .mapClose :: rest => some ([], rest)
    | _ => do
      let tokens ← if first then some tokens else
        match tokens with
        | .separator :: rest => some rest
        | _ => none
      match tokens with
      | .mapClose :: rest => some ([], rest)
      | .key :: rest =>
        let (key, rest) ← readOr? false false [.value, .separator, .mapClose] fuel rest
        let (value, rest) ← valueOr? false [.separator, .mapClose] fuel rest
        let (entries, rest) ← mapEntries? false fuel rest
        pure ((key, value) :: entries, rest)
      | _ =>
        let (key, rest) ← read? false false fuel tokens
        let (entries, rest) ← mapEntries? false fuel rest
        pure ((key, empty) :: entries, rest)

end

/-- The only document of a list of tokens. -/
def ofTokens? (tokens : List Token) : Option Node := do
  let tokens := match tokens with
    | .documentStart :: rest => rest
    | _ => tokens
  if tokens.isEmpty then none
  let fuel := 3 * tokens.length + 3
  let (node, rest) ← readOr? true false [.documentStart, .documentEnd] fuel tokens
  if rest.all (· == .documentEnd) then some node else none

/-- The only document of a text. -/
def ofText? (text : String) : Option Node := (tokens? text).bind ofTokens?

end Node

end Yaml

end SlotMachine
