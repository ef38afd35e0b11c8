import SlotMachine.Draw

/-!
# Throwaway matrices

Square matrices of random numbers that are multiplied for the time it takes. Nothing reads the
product; what remains of the work are the words it draws and the flag it looks at before each row.
-/

namespace SlotMachine

abbrev Matrix (n : Nat) := Vector (Vector Float n) n

namespace Matrix

/-- A matrix of random numbers, row by row. -/
def random (n : Nat) : Draw (Matrix n) :=
  Vector.ofFnM fun _ => Vector.ofFnM fun _ => Draw.unit

/-- The sum of the products of a row with a column. -/
def cell {n : Nat} (a b : Matrix n) (row col : Fin n) : Float :=
  Fin.foldl n (fun sum k => sum + a[row][k] * b[k][col]) 0.0

/-- The product of two matrices, looking at the flag before each row. -/
def product {n : Nat} (a b : Matrix n) : Spin (Matrix n) :=
  Vector.ofFnM fun row => do
    Spin.checkpoint
    pure (Vector.ofFn fun col => cell a b row col)

/-- Multiplies a random matrix `rounds` times by another one. -/
def burn (size rounds : Nat) : Spin Unit := do
  if size = 0 ∨ rounds = 0 then return
  Spin.reserve (size * size)
  let a ← random size
  let b ← random size
  discard <| rounds.foldM (fun _ _ a => product a b) a

end Matrix

end SlotMachine
