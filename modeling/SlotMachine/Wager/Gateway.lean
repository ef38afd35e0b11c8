import SlotMachine.Collaborators
import SlotMachine.Json.Decode
import SlotMachine.Json.Text
import SlotMachine.Text.Blank

/-!
# The wager service over HTTP

Each call is one request. A reply with the status of a success must be JSON; any other reply means
that there is nothing to wager, and no reply at all is a failure.
-/

namespace SlotMachine

namespace Wager

structure Request where
  path : String
  body : Json

structure Reply where
  status : Nat
  body : Source

structure Gateway where
  baseUrl : String

namespace Gateway

/-- The address of a path below the base, whose slashes at the end do not count. -/
def endpoint (g : Gateway) (path : String) : String :=
  String.ofList (dropWhileEnd (· = '/') g.baseUrl.toList) ++ "/" ++ path

end Gateway

def validatePath : String := "wager/validate"
def placePath : String := "wager/place"

def validateRequest (userId : String) (amount : Float) (gameId : String) : Request where
  path := validatePath
  body := .object [("amount", .float amount), ("game_id", .string gameId),
    ("user_id", .string userId)]

def placeRequest (validation : Json) (result : WagerResult) (payout : Float) : Request where
  path := placePath
  body := .object [("game_result", .string result.key), ("payout", .float payout),
    ("validation_data", validation)]

/-- What a reply says to a request for a path. -/
def readReply (path : String) : Option Reply → Except Failure (Option Json)
  | none => .error ⟨[s!"failed to call wager service {path}"]⟩
  | some reply =>
    if 200 ≤ reply.status && reply.status < 300 then
      match Json.Decoder.ofSource Json.value reply.body with
      | .ok value => .ok (some value)
      | .error _ => .error ⟨[s!"invalid wager service response from {path}"]⟩
    else .ok none

/-- The id of a wager, which may be told as a number. -/
def idOfJson? : Json → Option String
  | .string id => some id
  | .int n => some (Json.int n).text
  | .float x => some (Json.float x).text
  | _ => none

/-- The wager that has been placed; a progress that is `null` counts as missing. -/
def placedOfJson (body : Json) : PlacedWager where
  id := (body.get? "wager_id").bind idOfJson?
  progress := (body.get? "wagering_progress").filter (!·.isNull)

def readValidation (reply : Option Reply) : Except Failure (Option Json) :=
  readReply validatePath reply

def readPlaced (reply : Option Reply) : Except Failure (Option PlacedWager) :=
  (readReply placePath reply).map (·.map placedOfJson)

end Wager

end SlotMachine
