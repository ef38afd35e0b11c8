import SlotMachine.Instant.Calendar

/-!
# Instants

A point in time, in seconds since the start of 1970 and nanoseconds. During a leap second the
nanoseconds go on counting beyond a thousand million.
-/

namespace SlotMachine

structure Instant where
  seconds : Int
  nanos : Nat
  deriving DecidableEq, Repr

namespace Instant

/-- Earlier than, by seconds and then by nanoseconds. -/
def isBefore (a b : Instant) : Bool :=
  a.seconds < b.seconds || (a.seconds == b.seconds && a.nanos < b.nanos)

/-- The first instant that can be told. -/
def earliest : Instant := ⟨(Date.toDays ⟨-262143, 1, 1⟩) * 86400, 0⟩

/-- The last second that can be told. -/
def latestSecond : Int := (Date.toDays ⟨262142, 12, 31⟩) * 86400 + 86399

/-- So many hours earlier, if there is such an instant. -/
def hoursBefore? (i : Instant) (hours : Nat) : Option Instant :=
  let start : Instant := { i with seconds := i.seconds - 3600 * hours }
  if start.isBefore earliest then none else some start

end Instant

end SlotMachine
