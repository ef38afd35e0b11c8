import SlotMachine.Messages.Round

/-!
# Event records

A round's event as it is handed to a message broker: keyed by the user, the event itself as the
payload, and the trace once more as headers.
-/

namespace SlotMachine

structure EventRecord where
  topic : String
  key : String
  payload : String
  headers : List (String × String)
  deriving DecidableEq, Repr

/-- What is told about a record that the broker does not take. -/
def EventRecord.refusal : String := "Kafka publish failed"

/-- The record of an event. -/
def RoundEvent.record (e : RoundEvent) (topic : String) : EventRecord where
  topic
  key := e.round.userId
  payload := e.toJson.text
  headers := e.trace

end SlotMachine
