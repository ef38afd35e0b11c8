import SlotMachine.Json.Syntax

/-!
# Reading values from JSON

A decoder turns the tree of a text into a value of a type, or says what is wrong: the text is not
JSON (`malformed`), or it is JSON for something else (`mismatched`). Where both are wrong the fault
that stands first in the text counts. So the fields of a record are read one by one, each from its
own member, and of their faults the one with the smallest place is kept.
-/

namespace SlotMachine

/-- What is wrong with a text that is read. -/
inductive Fault
  | malformed
  | mismatched
  deriving DecidableEq, Repr

namespace Json

/-- So many lists and objects may be nested in what is read. -/
def maxDepth : Nat := 127

/-- Reads a value below which `room` more lists and objects may be nested. -/
abbrev Decoder (α : Type) := (room : Nat) → Node → Except Fault α

namespace Node

mutual

/-- Whether the tree stands for JSON, whatever it says. -/
def isWellFormed : Node → Bool
  | broken => false
  | array items closed => areWellFormed items && closed
  | object members closed => membersWellFormed members && closed
  | _ => true

def areWellFormed : List Node → Bool
  | [] => true
  | item :: rest => isWellFormed item && areWellFormed rest

def membersWellFormed : List (Option String × Node) → Bool
  | [] => true
  | (_, value) :: rest => isWellFormed value && membersWellFormed rest

end

/-- The fault of a value of the wrong kind. Numbers and strings are read to their end before their
kind is looked at. -/
def fault : Node → Fault
  | broken => .malformed
  | string none => .malformed
  | number literal => if literal.value?.isSome then .mismatched else .malformed
  | _ => .mismatched

end Node

/-! ### Single values -/

mutual

/-- Any value. -/
def value : Decoder Json
  | _, .null => .ok null
  | _, .bool value => .ok (bool value)
  | _, .number literal =>
    match literal.value? with
    | some number => .ok number
    | none => .error .malformed
  | _, .string (some text) => .ok (string text)
  | room + 1, .array items closed => do
    let items ← values room items
    if closed then .ok (array items) else .error .malformed
  | room + 1, .object members closed => do
    let members ← memberValues room members
    if closed then .ok (ofMembers members) else .error .malformed
  | _, _ => .error .malformed

def values (room : Nat) : List Node → Except Fault (List Json)
  | [] => .ok []
  | item :: rest => do
    let item ← value room item
    let rest ← values room rest
    pure (item :: rest)

def memberValues (room : Nat) : List (Option String × Node) → Except Fault (List (String × Json))
  | [] => .ok []
  | (none, _) :: _ => .error .malformed
  | (some key, node) :: rest => do
    let node ← value room node
    let rest ← memberValues room rest
    pure ((key, node) :: rest)

end

namespace Decoder

def bool : Decoder Bool
  | _, .bool value => .ok value
  | _, node => .error node.fault

def string : Decoder String
  | _, .string (some text) => .ok text
  | _, node => .error node.fault

/-- A number, whole or not. -/
def float : Decoder Float
  | _, .number literal =>
    match literal.value?.bind number? with
    | some x => .ok x
    | none => .error .malformed
  | _, node => .error node.fault

/-- A whole number below `limit`. -/
def below (limit : Nat) : Decoder Nat
  | _, .number literal =>
    match literal.value? with
    | some (.int (.ofNat n)) => if n < limit then .ok n else .error .mismatched
    | some _ => .error .mismatched
    | none => .error .malformed
  | _, node => .error node.fault

def word32 : Decoder UInt32 := fun room node => (below UInt32.size room node).map Nat.toUInt32

def word64 : Decoder UInt64 := fun room node => (below UInt64.size room node).map Nat.toUInt64

def unit : Decoder Unit
  | _, .null => .ok ()
  | _, node => .error node.fault

/-- `null` for nothing, or a value. -/
def option {α : Type} (decoder : Decoder α) : Decoder (Option α)
  | _, .null => .ok none
  | room, node => (decoder room node).map some

/-- The values of a list, from left to right. -/
def list {α : Type} (decoder : Decoder α) : Decoder (List α)
  | room + 1, .array items closed => do
    let values ← items.mapM (decoder room)
    if closed then .ok values else .error .malformed
  | 0, .array _ _ => .error .malformed
  | _, node => .error node.fault

/-- An object with any names. Of members with one name the last counts. -/
def dictionary {α : Type} (decoder : Decoder α) : Decoder (List (String × α))
  | room + 1, .object members closed => do
    let entries ← members.mapM fun (key, node) =>
      match key with
      | some key => (decoder room node).map (key, ·)
      | none => .error .malformed
    if closed then
      .ok (entries.foldl (fun sorted (key, value) => insertMember key value sorted) [])
    else .error .malformed
  | 0, .object _ _ => .error .malformed
  | _, node => .error node.fault

/-- One of several names, as a string or as an object whose only member has that name and the value
of a `payload`, which says nothing. -/
def choice {α : Type} (ofName? : String → Option α) (payload : Decoder Unit) : Decoder α
  | _, .string (some name) => named name
  | room + 1, .object [(some name, node)] closed => do
    let choice ← named name
    payload room node
    if closed then .ok choice else .error .malformed
  | _, _ => .error .malformed
where
  named (name : String) : Except Fault α :=
    match ofName? name with
    | some a => .ok a
    | none => .error .mismatched

end Decoder

/-! ### Records -/

/-- A value, or a fault with the number of entries before it. -/
inductive Placed (α : Type)
  | value (a : α)
  | fault (place : Nat) (fault : Fault)

namespace Placed

def result {α : Type} : Placed α → Except Fault α
  | value a => .ok a
  | fault _ e => .error e

/-- Of two faults the one with the smaller place is kept. -/
def seq {α β : Type} : Placed (α → β) → Placed α → Placed β
  | value f, value a => value (f a)
  | fault p e, value _ => fault p e
  | value _, fault q d => fault q d
  | fault p e, fault q d => if q < p then fault q d else fault p e

instance : Applicative Placed where
  pure := value
  seq f x := f.seq (x ())

end Placed

/-- A field of a record: the names under which it may stand, the first of them the usual one, how it
is read, and its value where it is missing and may be. -/
structure RecordField (α : Type) where
  names : List String
  decoder : Decoder α
  absent : Option α := none

abbrev Members := List (Option String × Node)

/-- The members of a record that is being read. -/
structure Record where
  members : Members
  room : Nat

namespace Record

/-- The first member that has one of these names, with its place. -/
def find? (names : List String) (place : Nat) : Members → Option (Nat × Node)
  | [] => none
  | (key, node) :: rest =>
    if key.any (names.contains ·) then some (place, node) else find? names (place + 1) rest

/-- The value of a field. That it is missing turns out after the last member. -/
def get {α : Type} (r : Record) (field : RecordField α) : Placed α :=
  match find? field.names 0 r.members with
  | some (place, node) =>
    match field.decoder r.room node with
    | .ok a => .value a
    | .error e => .fault place e
  | none =>
    match field.absent with
    | some a => .value a
    | none => .fault (r.members.length + 1) .mismatched

/-- The members that belong to no field. -/
def others (fields : List (List String)) (r : Record) : List (String × Node) :=
  r.members.filterMap fun (key, node) =>
    key.bind fun key => if fields.any (·.contains key) then none else some (key, node)

/-- Looks through the members for a fault that is not in the value of a field: a name that is no
text, a field that was there before, an `other` member that cannot be read, or no end. -/
def outline (fields : List (List String)) (other : Node → Except Fault Unit) (closed : Bool)
    (seen : List (List String)) (place : Nat) : Members → Placed Unit
  | [] => if closed then .value () else .fault place .malformed
  | (none, _) :: _ => .fault place .malformed
  | (some key, node) :: rest =>
    match fields.find? (·.contains key) with
    | some names =>
      if seen.contains names then .fault place .mismatched
      else outline fields other closed (names :: seen) (place + 1) rest
    | none =>
      match other node with
      | .ok () => outline fields other closed seen (place + 1) rest
      | .error e => .fault place e

/-- Passes over a member that nobody reads. -/
def skip (node : Node) : Except Fault Unit :=
  if node.isWellFormed then .ok () else .error .malformed

end Record

namespace Decoder

/-- A record, as an object or as the list of its values in the order of the fields. -/
def record {α : Type} (fields : List (List String)) (build : Record → Placed α) : Decoder α
  | room + 1, .object members closed =>
    (Record.outline fields Record.skip closed [] 0 members *> build ⟨members, room⟩).result
  | room + 1, .array items closed =>
    let members := List.zipWith (fun names item => (names.head?, item)) fields items
    let closed := closed && items.length ≤ fields.length
    (Record.outline fields Record.skip closed [] 0 members *> build ⟨members, room⟩).result
  | 0, .object _ _ => .error .malformed
  | 0, .array _ _ => .error .malformed
  | _, node => .error node.fault

/-- A record that is an object and keeps the members that belong to no field. -/
def openRecord {α : Type} (fields : List (List String)) (build : Record → Placed α) : Decoder α
  | room + 1, .object members closed =>
    let other node := (value room node).map fun _ => ()
    (Record.outline fields other closed [] 0 members *> build ⟨members, room⟩).result
  | 0, .object _ _ => .error .malformed
  | _, node => .error node.fault

/-- The value that a text says, with nothing but blanks around it. -/
def ofSource {α : Type} (decoder : Decoder α) (source : Source) : Except Fault α := do
  let (node, ended) := Node.ofSource source
  let a ← decoder maxDepth node
  if ended then .ok a else .error .malformed

end Decoder

end Json

end SlotMachine
