import SlotMachine.Collaborators
import SlotMachine.Database.Request

/-!
# Inquiries

Conversations with the database that are given up at the first request that fails.
-/

namespace SlotMachine

namespace Database

/-- A conversation that fails when one of its requests does. -/
abbrev Inquiry (N : Type) := ExceptT Failure (Conversation N)

/-- An inquiry whose numbers are those that are sent. -/
abbrev Attempt := Inquiry Float

namespace Inquiry

variable {N : Type}

/-- What a request gives, or the reason that goes with its failure. -/
def demand {α : Type} (reason : String) (reply : Conversation N (Option α)) : Inquiry N α :=
  ExceptT.mk do
    match ← reply with
    | some a => pure (.ok a)
    | none => pure (.error ⟨[reason]⟩)

def put (reason table : String) (item : Item N) : Inquiry N Unit :=
  demand reason (Dialogue.call (Request.put table item))

def scan (table : String) (filter : RoundFilter) (start : PageKey) : Inquiry N (Page N) :=
  demand "failed to scan game_rounds table" (Dialogue.call (Request.scan table filter start))

def getBalance (table userId : String) : Inquiry N (Option (Item N)) :=
  demand "failed to read user balance" (Dialogue.call (Request.getBalance table userId))

def addToBalance (table userId : String) (default delta : N) (now : Instant) :
    Inquiry N (Option (Item N)) :=
  demand "failed to update user balance"
    (Dialogue.call (Request.addToBalance table userId default delta now))

def setBalance (table userId : String) (balance : N) (now : Instant) : Inquiry N Unit :=
  demand "failed to reset user balance"
    (Dialogue.call (Request.setBalance table userId balance now))

end Inquiry

end Database

end SlotMachine
