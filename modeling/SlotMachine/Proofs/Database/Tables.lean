import Mathlib.Logic.Function.Basic
import Mathlib.Tactic.Common
import SlotMachine.Database.Request

/-!
# Tables of balances

A database with tables of which the user is the key, as far as balances need it. It carries every
request out as a whole: a put replaces an item, an update sets the attributes that its expression
names, in an item that is there afterwards if it was not before. A sum is there for numbers only; an
update with another sum fails and changes nothing.

What a balance counts for in an update is `reckoned?`; the lemmas at the end tell it of the tables
that a request leaves.
-/

namespace SlotMachine

namespace Database

variable {N : Type}

namespace Item

/-- The attributes that an update of a balance sets. -/
def updated (balance : N) (time : Instant) : Item N := [
  ("balance", .number balance), ("updated_at", .string time.microText)]

/-- Sets attributes of an item. -/
def set (item attributes : Item N) : Item N :=
  attributes ++ item.filter fun (name, _) => (attributes.lookup name).isNone

/-- The number that `if_not_exists(balance, :default)` stands for. -/
def balanceOr? (item : Item N) (default : N) : Option N :=
  match item.lookup "balance" with
  | none => some default
  | some (.number balance) => some balance
  | some _ => none

end Item

/-- The items of tables, by the names of the tables and of the users. -/
abbrev Tables (N : Type) := String × String → Option (Item N)

namespace Tables

/-- The item in which an update sets its attributes. -/
def item (s : Tables N) (table userId : String) : Item N :=
  (s (table, userId)).getD [("user_id", .string userId)]

def put (s : Tables N) (table userId : String) (item : Item N) : Tables N :=
  Function.update s (table, userId) (some item)

/-- Sets the balance of a user. -/
def update (s : Tables N) (table userId : String) (balance : N) (time : Instant) : Tables N :=
  s.put table userId ((s.item table userId).set (.updated balance time))

/-- The balance that is stored for a user. -/
def balance? (s : Tables N) (table userId : String) : Option N :=
  (s (table, userId)).bind (·.number? "balance")

/-- What an update reckons a balance with, as one that is not there has the `default`. -/
def reckoned? (s : Tables N) (table userId : String) (default : N) : Option N :=
  (s.item table userId).balanceOr? default

/-- Carries a request out. Nothing is scanned in tables of balances. -/
def answer [Add N] : (request : Request N) → StateM (Tables N) request.Reply
  | .put table item => fun s =>
    match item.string? "user_id" with
    | some userId => (some (), s.put table userId item)
    | none => (none, s)
  | .getBalance table userId => fun s => (some (s (table, userId)), s)
  | .addToBalance table userId default delta time => fun s =>
    match s.reckoned? table userId default with
    | some balance =>
      (some (some (.updated (balance + delta) time)),
        s.update table userId (balance + delta) time)
    | none => (none, s)
  | .setBalance table userId balance time => fun s =>
    (some (), s.update table userId balance time)
  | .scan _ _ _ => fun s => (none, s)

variable {s : Tables N} {table userId : String}

lemma answer_put [Add N] {item : Item N} (h : item.string? "user_id" = some userId) :
    answer (.put table item) s = (some (), s.put table userId item) := by
  simp only [answer, h]

lemma answer_setBalance [Add N] {balance : N} {time : Instant} :
    answer (.setBalance table userId balance time) s =
      (some (), s.update table userId balance time) := rfl

lemma answer_addToBalance [Add N] {default delta x : N} {time : Instant}
    (h : s.reckoned? table userId default = some x) :
    answer (.addToBalance table userId default delta time) s =
      (some (some (.updated (x + delta) time)), s.update table userId (x + delta) time) := by
  simp only [answer, h]

lemma answer_addToBalance_of_none [Add N] {default delta : N} {time : Instant}
    (h : s.reckoned? table userId default = none) :
    answer (.addToBalance table userId default delta time) s = (none, s) := by
  simp only [answer, h]

@[simp] lemma put_apply (item : Item N) : s.put table userId item (table, userId) = some item := by
  simp [put]

lemma isSome_put {key : String × String} (item : Item N) (h : (s key).isSome) :
    (s.put table userId item key).isSome := by
  by_cases hkey : key = (table, userId)
  · subst hkey
    simp
  · simpa [put, Function.update_of_ne hkey] using h

/-- No request takes an item out of its table. -/
lemma isSome_answer [Add N] {key : String × String} (request : Request N) (h : (s key).isSome) :
    ((answer request s).2 key).isSome := by
  cases request with
  | put table item =>
    simp only [answer]
    split
    · exact isSome_put item h
    · exact h
  | getBalance table userId => exact h
  | addToBalance table userId default delta time =>
    simp only [answer]
    split
    · exact isSome_put _ h
    · exact h
  | setBalance table userId balance time => exact isSome_put _ h
  | scan table filter start => exact h

/-- A number that is stored as the balance is what is told and what updates reckon with. -/
lemma holds_put {item : Item N} {x : N} (h : item.lookup "balance" = some (.number x))
    (default : N) :
    (s.put table userId item).balance? table userId = some x ∧
      (s.put table userId item).reckoned? table userId default = some x := by
  simp [balance?, reckoned?, Tables.item, Item.number?, Item.balanceOr?, h]

lemma reckoned?_of_none (h : s (table, userId) = none) (default : N) :
    s.reckoned? table userId default = some default := by
  simp only [reckoned?, item, h]
  rfl

lemma reckoned?_of_some {item : Item N} (h : s (table, userId) = some item) (default : N) :
    s.reckoned? table userId default = item.balanceOr? default := by
  simp [reckoned?, Tables.item, h]

end Tables

end Database

end SlotMachine
