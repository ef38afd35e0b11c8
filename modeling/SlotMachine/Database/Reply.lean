import SlotMachine.Database.Request
import SlotMachine.Settings.Number

/-!
# Replies of the database

How the replies of the database are read. A reply counts if its status is that of a success and its
body is a JSON object; members that are missing count as empty.
-/

namespace SlotMachine

namespace Database

/-- A reply as it comes. -/
structure WireReply where
  status : Nat
  body : Json

def WireReply.succeeded (r : WireReply) : Bool := 200 ≤ r.status && r.status < 300

namespace Attribute

def ofJson : Json → Attribute Float
  | .object [("S", .string text)] => string text
  | .object [("N", .string text)] =>
    match Number.float text with
    | .ok value => number value
    | .error _ => other
  | .object [("BOOL", .bool value)] => flag value
  | _ => other

end Attribute

namespace Item

def ofJson? : Json → Option (Item Float)
  | .object members => some (members.map fun (name, value) => (name, Attribute.ofJson value))
  | _ => none

end Item

namespace Page

def ofJson (body : Json) : Page Float where
  items :=
    match body.get? "Items" with
    | some (.array items) => items.filterMap Item.ofJson?
    | _ => []
  lastKey :=
    match body.get? "LastEvaluatedKey" with
    | some (.object key) => key
    | _ => []

end Page

namespace Request

/-- What a reply says to a request; nothing if there was none or it tells no success. -/
def readReply (request : Request Float) (reply : Option WireReply) : request.Reply :=
  let body? := (reply.filter (·.succeeded)).map (·.body)
  match request with
  | put _ _ => body?.map fun _ => ()
  | getBalance _ _ => body?.map fun body => (body.get? "Item").bind Item.ofJson?
  | addToBalance _ _ _ _ _ => body?.map fun body => (body.get? "Attributes").bind Item.ofJson?
  | setBalance _ _ _ _ => body?.map fun _ => ()
  | scan _ _ _ => body?.map Page.ofJson

end Request

end Database

end SlotMachine
