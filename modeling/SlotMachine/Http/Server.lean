import SlotMachine.Http.MediaType
import SlotMachine.Http.Route
import SlotMachine.Service

/-!
# The server

How requests are read, handed to the service and answered. The plain interface wants its requests
declared as JSON and tells errors as JSON objects; the Connect interface looks at the body alone,
takes an empty one for an empty message, and tells errors by a code.
-/

namespace SlotMachine

namespace Http

structure Server where
  service : Service
  surfaces : Surfaces
  /-- The rounds of work that the machine gets done while its processor is kept busy. -/
  busyRounds : Nat := 1

/-- The way from a request that is served to its response: what has been drawn is settled in an
exchange. -/
abbrev Serving := Draw (Exchange Response)

/-! ### Bodies -/

/-- Why the body of a plain request is refused. -/
inductive BodyError
  | notDeclared
  | unreadable (fault : Fault)
  deriving DecidableEq, Repr

def BodyError.message : BodyError → String
  | notDeclared => "Expected request with \x60Content-Type: application/json\x60"
  | unreadable .malformed => "Failed to parse the request body as JSON"
  | unreadable .mismatched => "Failed to deserialize the JSON body into the target type"

/-- The message in the body of a plain request. -/
def restBody {α : Type} (decoder : Json.Decoder α) (r : Request) : Except BodyError α :=
  if (r.headerText? "content-type").any isJsonType then
    (decoder.ofSource (Source.ofBytes r.body)).mapError .unreadable
  else .error .notDeclared

/-- The blanks of ASCII, without the vertical tab. -/
def isBlankByte (b : UInt8) : Bool := b == 32 || b == 9 || b == 10 || b == 12 || b == 13

/-- The message in the body of a Connect request. -/
def connectBody {α : Type} (decoder : Json.Decoder α) (empty : α) (r : Request) :
    Except ConnectFailure α :=
  if r.body.all isBlankByte then .ok empty
  else
    match decoder.ofSource (Source.ofBytes r.body) with
    | .ok a => .ok a
    | .error _ => .error { code := .invalidArgument, message := "invalid request body" }

def connectError (f : ConnectFailure) : Response := .json f.code.status f.toJson

def connectSettled : Except SpinError Settlement → Response
  | .ok settlement => .json 200 (ConnectReply.ofReply settlement.toReply).toJson
  | .error e => connectError { code := e.code, message := e.message }

namespace Server

variable (s : Server)

/-! ### Endpoints -/

/-- Answers without drawing or asking anything. -/
def respond (response : Response) : Serving := pure (pure response)

def calculate (r : Request) (now : Instant) : Serving :=
  match restBody PlayRequest.decoder r with
  | .error e => respond (.error 400 e.message)
  | .ok request => do
    let exchange ← s.service.execute request r.trace now
    pure ((fun (status, reply) => Response.json status reply.toJson) <$> exchange)

def businessMetrics (r : Request) : Serving :=
  match restBody ScenarioRequest.decoder r with
  | .error e => respond (.error 400 e.message)
  | .ok request => pure ((fun reply => .json 200 reply.toJson) <$> Service.runScenario request)

def connectCalculate (r : Request) (now : Instant) : Serving :=
  match connectBody PlayRequest.decoder {} r with
  | .error e => respond (connectError e)
  | .ok request => do
    let exchange ← s.service.play request r.trace now
    pure (connectSettled <$> exchange)

def connectBusinessMetrics (r : Request) : Serving :=
  match connectBody ScenarioRequest.decoder {} r with
  | .error e => respond (connectError e)
  | .ok request => pure ((fun reply => .json 200 reply.toJson) <$> Service.runScenario request)

def healthResponse : Response :=
  .json 200 (.object [("ok", .bool true), ("service", .string "game-engine-service")])

def metricsResponse (recorder : Recorder) : Response where
  status := 200
  contentType := some "text/plain; version=0.0.4"
  body := .metrics recorder

/-- Serves an endpoint; `pieces` is the count of pieces of memory kept before. -/
def serve (r : Request) (now : Instant) (pieces : Nat) : Endpoint → Serving
  | .health => respond healthResponse
  | .metrics => pure (metricsResponse <$> get)
  | .calculate => s.calculate r now
  | .businessMetrics => businessMetrics r
  | .connectCalculate => s.connectCalculate r now
  | .connectBusinessMetrics => connectBusinessMetrics r
  | .crash => respond Demo.crashResponse
  | .failure kind => respond (Demo.Failure.ofKind kind).response
  | .memoryLeak => respond (Demo.leakResponse (pieces + 1))
  | .infiniteLoop => respond (Demo.busyResponse s.busyRounds)
  | .asyncError => respond Demo.asyncResponse
  | .threadingError => respond Demo.threadResponse

/-- How many pieces of memory are kept after a request. -/
def piecesAfter (pieces : Nat) : Route → Nat
  | .endpoint .memoryLeak => pieces + 1
  | .head .memoryLeak => pieces + 1
  | _ => pieces

/-- Takes the body from a response to a request for the head. A breakdown is answered from outside
the endpoint, and so in full. -/
def headOnly (e : Endpoint) (response : Response) : Response :=
  if e = .crash then response else { response with body := .empty }

def handle (r : Request) (now : Instant) (pieces : Nat) : Route → Serving
  | .endpoint e => s.serve r now pieces e
  | .head e => do
    let exchange ← s.serve r now pieces e
    pure (headOnly e <$> exchange)
  | .preflight => respond { status := 200 }
  | .badPath part => respond (.text 400 s!"Invalid URL: Invalid UTF-8 in \x60{part}\x60")
  | .notAllowed methods => respond { status := 405, allow := some methods }
  | .notFound => respond { status := 404 }

/-- Answers a request; gives also the count of pieces of memory kept afterwards. -/
def answer (r : Request) (now : Instant) (pieces : Nat) : Serving × Nat :=
  let route := Route.ofRequest s.surfaces r
  (s.handle r now pieces route, piecesAfter pieces route)

end Server

end Http

end SlotMachine
