/-!
# Tapes

A tape is a stack whose cells keep their values when they are taken off. Its height may be set
to anything; only reading or writing a cell that the tape does not have fails.
-/

namespace CodeViewer.Pattern

/-- Why a search breaks down. -/
inductive Breakdown where
  /-- A place was asked for that the text, the program or a tape does not have. -/
  | outOfRange
  /-- There is no such instruction. -/
  | unknownInstruction
  deriving DecidableEq, Repr

/-- The element of an array at an index that may lie outside. -/
def elementAt {α : Type} (xs : Array α) (i : Int) : Except Breakdown α :=
  if i < 0 then .error .outOfRange
  else
    match xs[i.toNat]? with
    | some x => .ok x
    | none => .error .outOfRange

/-- A stack of numbers: the cells from the bottom, and how many of them are in use. -/
structure Tape where
  cells : Array Int
  height : Int
  deriving Repr

namespace Tape

/-- An empty tape with room for `room` numbers. -/
def ofRoom (room : Nat) : Tape := ⟨Array.replicate room 0, 0⟩

/-- Take all numbers off. -/
def clear (t : Tape) : Tape := { t with height := 0 }

/-- Put a number on. -/
def push (t : Tape) (n : Int) : Except Breakdown Tape :=
  if 0 ≤ t.height && t.height < t.cells.size then
    .ok ⟨t.cells.setIfInBounds t.height.toNat n, t.height + 1⟩
  else .error .outOfRange

/-- Put several numbers on, the first one undermost. -/
def pushAll (t : Tape) (ns : List Int) : Except Breakdown Tape := ns.foldlM push t

/-- Take numbers off. -/
def drop (t : Tape) (count : Nat) : Tape := { t with height := t.height - count }

/-- The number so many cells above the topmost one; zero is the one taken off last. -/
def above (t : Tape) (i : Nat) : Except Breakdown Int := elementAt t.cells (t.height + i)

/-- Double the room if fewer than `least` cells are free. -/
def reserve (t : Tape) (least : Nat) : Tape :=
  if t.cells.size - t.height < least then
    { t with cells := t.cells ++ Array.replicate t.cells.size 0 }
  else t

end Tape

end CodeViewer.Pattern
