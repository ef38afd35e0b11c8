import SlotMachine.Engine
import SlotMachine.Heavy.Matrix
import SlotMachine.Primes

/-!
# Spins

The two ways to an outcome. The normal strategy decides by chance whether the spin wins and draws
the symbols from the pool. The heavy strategy takes both the decision and the reels from sums of
sines over primes, after work that is done only to take time. Either way a losing spin that came up
three of a kind gets another symbol on its middle reel.
-/

namespace SlotMachine

namespace Engine

variable (e : Engine)

/-- Puts another symbol of the table on the middle reel of three of a kind. -/
def breakTie (reels : Reels) : Draw Reels := do
  if reels.allEqual then
    let others := e.table.others reels.first
    let i ← Draw.below others.length (List.length_pos_iff.2 (e.table.others_ne_nil reels.first))
    pure { reels with second := others[i] }
  else pure reels

def spinNormal : Draw Outcome := do
  if ← Draw.chance e.winProbability then
    let s ← e.pool.draw
    pure (.winning s e.table)
  else
    let first ← e.pool.draw
    let second ← e.pool.draw
    let third ← e.pool.draw
    let reels ← e.breakTie ⟨first, second, third⟩
    pure (.losing reels)

/-- One pass of the heavy sum over a prime. -/
def heavyPass (prime sum : Float) (i : Nat) : Float :=
  let i := i.toUInt64.toFloat
  let sum := sum + Float.sin (prime * i) * Float.cos (prime / (i + 1.0))
  let sum := sum + Float.log (sum.abs + 1.0)
  sum + Float.exp (-sum.abs / 1000000.0)

/-- The sum that decides a heavy spin. The flag is looked at before each prime. -/
def heavySum (primes : List UInt64) (iterations : Nat) : Spin Float :=
  primes.foldlM (fun sum prime => do
    Spin.checkpoint
    pure (iterations.fold (fun i _ sum => heavyPass prime.toFloat sum i) sum)) 0.0

/-- The sum that decides where the reel with this number stops. The flag is looked at before each
term. -/
def reelSum (prime : Float) (reel iterations : Nat) : Spin Float :=
  iterations.foldM (fun j _ sum => do
    Spin.checkpoint
    pure (sum + Float.sin (prime * j.toUInt64.toFloat * (reel + 1).toUInt64.toFloat))) 0.0

/-- The pool index for a sum: the whole part of its remainder by the size of the pool. -/
def stop (sum : Float) : Symbol :=
  e.pool.entryAt (Binary64.remainder sum.abs e.pool.size.toUInt64.toFloat).toUInt64.toNat

/-- Where the reel with this number stops. A prime that was not found counts as one. -/
def heavyReel (primes : List UInt64) (reel : Nat) : Spin Symbol := do
  let prime := (primes[reel]?.getD 1).toFloat
  let sum ← reelSum prime reel e.heavy.iterations.toNat
  pure (e.stop sum)

def spinHeavy : Spin Outcome := do
  let primes ← Primes.upward e.heavy.primeFloor e.heavy.primeCount
  Matrix.burn e.heavy.matrixSize.toNat e.heavy.matrixRounds.toNat
  let sum ← heavySum primes e.heavy.iterations.toNat
  let threshold := Binary64.remainder sum.abs 100.0 / 100.0
  if threshold < e.winProbability then
    pure (.winning (e.stop (sum * (primes[0]?.getD 1).toFloat)) e.table)
  else
    let first ← e.heavyReel primes 0
    let second ← e.heavyReel primes 1
    let third ← e.heavyReel primes 2
    let reels ← e.breakTie ⟨first, second, third⟩
    pure (.losing reels)

/-- The outcome of a request for a strategy. -/
def spin (strategy : Strategy) : Spin Outcome :=
  match e.resolve strategy with
  | .normal => liftM e.spinNormal
  | .heavy => e.spinHeavy

end Engine

end SlotMachine
