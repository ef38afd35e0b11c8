import SlotMachine.Database.Item
import SlotMachine.Dialogue

/-!
# Requests to the database

The requests that are sent to the tables of rounds and of balances, how each is written, and what
the database may reply to it. A scan comes in pages: a page may end with a key, with which the next
page is asked for.
-/

namespace SlotMachine

namespace Database

/-- A key by which the database goes on with a scan. It is sent back as it came. -/
abbrev PageKey := List (String × Json)

structure Page (N : Type) where
  items : List (Item N)
  lastKey : PageKey

/-- Which rounds are looked for: those since an instant, of one user or of all. -/
structure RoundFilter where
  userId : Option String
  since : Instant

inductive Request (N : Type)
  | put (table : String) (item : Item N)
  | getBalance (table userId : String)
  /-- Adds `delta` to a balance, or to `default` where there is none. -/
  | addToBalance (table userId : String) (default delta : N) (time : Instant)
  | setBalance (table userId : String) (balance : N) (time : Instant)
  | scan (table : String) (filter : RoundFilter) (start : PageKey)

namespace Request

variable {N : Type}

/-- What the database tells; `none` where the request failed. -/
abbrev Reply : Request N → Type
  | put _ _ => Option Unit
  | getBalance _ _ => Option (Option (Item N))
  | addToBalance _ _ _ _ _ => Option (Option (Item N))
  | setBalance _ _ _ _ => Option Unit
  | scan _ _ _ => Option (Page N)

/-! ### Writing -/

def addExpression : String :=
  "SET balance = if_not_exists(balance, :default) + :delta, updated_at = :updated_at"

def setExpression : String := "SET balance = :balance, updated_at = :updated_at"

/-- The key of a user's balance. -/
def userKey (userId : String) : Json := Item.toJson [("user_id", .string userId)]

def values (item : Item Float) : String × Json := ("ExpressionAttributeValues", item.toJson)

/-- The body of a request. -/
def body : Request Float → Json
  | put table item => .object [("TableName", .string table), ("Item", item.toJson)]
  | getBalance table userId => .object [("TableName", .string table), ("Key", userKey userId)]
  | addToBalance table userId default delta time => .object [
      ("TableName", .string table), ("Key", userKey userId),
      ("UpdateExpression", .string addExpression),
      values [(":default", .number default), (":delta", .number delta),
        (":updated_at", .string time.microText)],
      ("ReturnValues", .string "UPDATED_NEW")]
  | setBalance table userId balance time => .object [
      ("TableName", .string table), ("Key", userKey userId),
      ("UpdateExpression", .string setExpression),
      values [(":balance", .number balance), (":updated_at", .string time.microText)]]
  | scan table filter start => .object ([
      ("TableName", .string table),
      ("FilterExpression", .string (
        if filter.userId.isSome then "user_id = :user_id AND #ts >= :since" else "#ts >= :since")),
      ("ExpressionAttributeNames", .object [("#ts", .string "timestamp")]),
      values ((filter.userId.map fun userId => (":user_id", Attribute.string userId)).toList ++
        [(":since", .string filter.since.microText)])] ++
      if start.isEmpty then [] else [("ExclusiveStartKey", .object start)])

end Request

/-- A conversation with the database. -/
abbrev Conversation (N : Type) := Dialogue (@Request.Reply N)

end Database

end SlotMachine
