import SlotMachine.Messages.Round
import SlotMachine.Metrics
import SlotMachine.Text.Blank

/-!
# HTTP messages

Requests and responses, and what the headers of a request say. Header names are told apart without
regard to case, and of several headers with one name only the first is looked at.
-/

namespace SlotMachine

namespace Http

abbrev Bytes := List UInt8

structure Request where
  method : String
  /-- The path, perhaps with a query behind it. -/
  target : String
  headers : List (String × Bytes)
  body : Bytes

inductive Body
  | empty
  | json (value : Json)
  | text (text : String)
  /-- The exposition of what has been recorded. -/
  | metrics (recorder : Recorder)

structure Response where
  status : Nat
  contentType : Option String := none
  allow : Option String := none
  body : Body := .empty

namespace Response

def json (status : Nat) (value : Json) : Response where
  status
  contentType := some "application/json"
  body := .json value

def text (status : Nat) (text : String) : Response where
  status
  contentType := some "text/plain; charset=utf-8"
  body := .text text

/-- A response that tells an error in a JSON object. -/
def error (status : Nat) (message : String) : Response :=
  json status (.object [("error", .string message)])

end Response

/-! ### Headers -/

def asciiLower (text : String) : String := String.ofList (text.toList.map Char.toLower)

/-- The text of a header value: tabs and the visible characters of ASCII. -/
def headerText? (value : Bytes) : Option String :=
  if value.all fun b => b == 9 || (32 ≤ b && b < 127) then
    some (String.ofList (value.map fun b => Char.ofNat b.toNat))
  else none

namespace Request

/-- The value of the first header with this name, which is in lower case. -/
def header? (r : Request) (name : String) : Option Bytes :=
  (r.headers.find? fun header => asciiLower header.1 == name).map (·.2)

def headerText? (r : Request) (name : String) : Option String :=
  (r.header? name).bind Http.headerText?

/-- The headers that are handed on with a round, sorted. -/
def traceNames : List String :=
  ["baggage", "sentry-trace", "traceparent", "tracestate", "x-request-id"]

/-- The trace of a request: the headers that are text and not blank, without blanks around them. -/
def trace (r : Request) : Trace :=
  traceNames.filterMap fun name =>
    (((r.headerText? name).map trim).filter (!·.isEmpty)).map (name, ·)

end Request

end Http

end SlotMachine
