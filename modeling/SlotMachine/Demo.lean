import SlotMachine.Http.Message
import SlotMachine.Settings.Number

/-!
# Failure demonstrations

Endpoints that fail on purpose, so that reports and alarms can be tried out. They touch nothing of
the game; one of them keeps hold of memory and counts how often it did, and one keeps the processor
busy and counts what it got done.
-/

namespace SlotMachine

namespace Demo

/-- A failure that is shown on request. -/
inductive Failure
  | value
  | type
  | index
  | key
  | zero
  | custom
  | unknown (kind : String)
  deriving DecidableEq, Repr

namespace Failure

def ofKind (kind : String) : Failure :=
  if kind = "value" then value
  else if kind = "type" then type
  else if kind = "index" then index
  else if kind = "key" then key
  else if kind = "zero" then zero
  else if kind = "custom" then custom
  else unknown kind

def message : Failure → String
  | value => s!"invalid literal for integer: {NumberError.invalidDigit.message}"
  | type => "type mismatch: invalid type: map, expected a sequence"
  | index => "index 10 out of range for length 3"
  | key => "missing key 'missing'"
  | zero => "division by zero"
  | custom => "Custom game engine error for demo"
  | unknown kind => s!"Unknown error type: {kind}"

def status : Failure → Nat
  | unknown _ => 400
  | _ => 500

def response (f : Failure) : Http.Response := .error f.status f.message

end Failure

/-- The megabytes of a piece of memory that is kept. -/
def pieceSize : Nat := 10

/-- The response once so many pieces are kept. -/
def leakResponse (pieces : Nat) : Http.Response :=
  .json 200 (.object [("status", .string "Memory leak created"), ("leaked_items", .int pieces),
    ("total_leaked_mb", .int (pieces * pieceSize : Nat))])

/-- The seconds for which the processor is kept busy. -/
def busySeconds : Float := 5.0

/-- The turns in a round of work; whether the time is up is seen between two rounds. -/
def roundTurns : Nat := 10000

/-- The response once the processor has been kept busy and got so many rounds done. -/
def busyResponse (rounds : Nat) : Http.Response :=
  .json 200 (.object [("status", .string "CPU spike completed"),
    ("duration_seconds", .float busySeconds), ("iterations", .int (rounds * roundTurns : Nat))])

/-- One of three tasks succeeds, one fails and one takes too long. -/
def asyncResponse : Http.Response :=
  .json 200 (.object [("status", .string "Async demo completed"), ("failures", .int 2)])

/-- Of three threads the last fails. -/
def threadResponse : Http.Response :=
  .json 200 (.object [("status", .string "Threading demo completed"), ("threads_created", .int 3),
    ("failures", .int 1)])

/-- The response where a handler broke down. -/
def crashResponse : Http.Response := .text 500 "Service panicked"

end Demo

end SlotMachine
