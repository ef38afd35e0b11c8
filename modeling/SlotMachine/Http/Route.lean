import SlotMachine.Demo

/-!
# Routes

Which endpoint a request is for. A path belongs to an endpoint with one method; an endpoint that is
fetched can also be asked for its head. The plain and the Connect interface can be switched off.
-/

namespace SlotMachine

namespace Http

inductive Endpoint
  | health
  | metrics
  | calculate
  | businessMetrics
  | connectCalculate
  | connectBusinessMetrics
  | crash
  | failure (kind : String)
  | memoryLeak
  | infiniteLoop
  | asyncError
  | threadingError
  deriving DecidableEq, Repr

inductive Route
  | endpoint (e : Endpoint)
  /-- The same as the endpoint's route, but nothing but the head is wanted. -/
  | head (e : Endpoint)
  | preflight
  /-- The path has a part that is no text. -/
  | badPath (part : String)
  | notAllowed (methods : String)
  | notFound
  deriving DecidableEq, Repr

/-- Which interfaces are served. -/
structure Surfaces where
  rest : Bool := true
  connect : Bool := true

namespace Route

/-! ### Paths -/

/-- The path of a target. -/
def pathOf (target : String) : List Char :=
  target.toList.takeWhile fun c => c ≠ '?' && c ≠ '#'

/-- The bytes of a path, where each percent sign with two hexadecimal digits stands for a byte. -/
def percentDecode : List UInt8 → List UInt8
  | 37 :: a :: b :: rest =>
    match Json.hexValue? (Char.ofNat a.toNat), Json.hexValue? (Char.ofNat b.toNat) with
    | some high, some low => (16 * high + low).toUInt8 :: percentDecode rest
    | _, _ => 37 :: percentDecode (a :: b :: rest)
  | c :: rest => c :: percentDecode rest
  | [] => []
termination_by bytes => bytes.length

/-- The text of a part of a path. -/
def partText? (part : List Char) : Option String :=
  (Source.ofBytes (percentDecode (String.ofList part).toUTF8.toList)).toString?

/-- What follows a path, if it is not empty and goes no deeper. -/
def partAfter? (start path : List Char) : Option (List Char) :=
  if start.isPrefixOf path then
    let part := path.drop start.length
    if part.isEmpty || part.contains '/' then none else some part
  else none

/-! ### Methods -/

def fetched (method : String) (e : Endpoint) : Route :=
  if method = "GET" then endpoint e
  else if method = "HEAD" then head e
  else notAllowed "GET,HEAD"

def posted (method : String) (e : Endpoint) : Route :=
  if method = "POST" then endpoint e else notAllowed "POST"

/-- The route of the endpoint that fails in a way that the path tells. -/
def failing (method : String) (part : List Char) : Route :=
  match partText? part with
  | some kind => fetched method (.failure kind)
  | none =>
    match fetched method .crash with
    | notAllowed methods => notAllowed methods
    | _ => badPath "kind"

def ofPath (surfaces : Surfaces) (method : String) (path : List Char) : Route :=
  let text := String.ofList path
  if text = "/health" then fetched method .health
  else if text = "/metrics" then fetched method .metrics
  else if text = "/calculate" && surfaces.rest then posted method .calculate
  else if text = "/business-metrics" && surfaces.rest then posted method .businessMetrics
  else if text = "/game.v1.GameEngineService/Calculate" && surfaces.connect then
    posted method .connectCalculate
  else if text = "/game.v1.GameEngineService/TrackBusinessMetrics" && surfaces.connect then
    posted method .connectBusinessMetrics
  else if text = "/debug/crash" then fetched method .crash
  else if text = "/debug/memory-leak" then fetched method .memoryLeak
  else if text = "/debug/infinite-loop" then fetched method .infiniteLoop
  else if text = "/debug/async-error" then fetched method .asyncError
  else if text = "/debug/threading-error" then fetched method .threadingError
  else
    match partAfter? "/debug/error/".toList path with
    | some part => failing method part
    | none => notFound

/-- The route of a request. Any request for the options is one that a browser sends ahead. -/
def ofRequest (surfaces : Surfaces) (r : Request) : Route :=
  if r.method = "OPTIONS" then preflight else ofPath surfaces r.method (pathOf r.target)

end Route

end Http

end SlotMachine
