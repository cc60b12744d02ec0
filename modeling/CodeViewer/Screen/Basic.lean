import CodeViewer.Screen.Coordinate
import CodeViewer.Screen.Style
import CodeViewer.Unicode.Property

/-!
# Screens

A screen is a grid of cells, each with a character and a style, and a place for the terminal's
cursor. What is put outside the grid is lost.
-/

namespace CodeViewer

/-- One cell of a screen. -/
structure Cell where
  char : Char
  style : Style
  deriving DecidableEq, Repr, Inhabited

/-- The cell nothing was put into. -/
def Cell.blank : Cell := ⟨' ', Style.default⟩

/-- The character a cell shows: a blank for one that takes no room. -/
def Cell.shown (c : Cell) : Char :=
  if c.char.toNat < 0x20 || Unicode.cellWidth c.char = 0 then ' ' else c.char

/-- A character put at a column and row. -/
structure Put where
  x : Int
  y : Int
  char : Char
  style : Style
  deriving DecidableEq, Repr

/-- A grid of cells, row by row, and the place of the cursor. -/
structure Screen where
  width : Nat
  height : Nat
  cells : Array Cell
  cursorX : Int
  cursorY : Int
  deriving Repr

namespace Screen

/-- A screen nothing was put on. -/
def empty (width height : Nat) : Screen :=
  ⟨width, height, Array.replicate (width * height) Cell.blank, -1, -1⟩

/-- Whether a column and row belong to the grid. -/
def inside (s : Screen) (x y : Int) : Bool :=
  0 ≤ x && x < s.width && 0 ≤ y && y < s.height

/-- The cell at a column and row. -/
def cellAt (s : Screen) (x y : Nat) : Cell := (s.cells[y * s.width + x]?).getD Cell.blank

/-- Put one character. -/
def put (s : Screen) (p : Put) : Screen :=
  if s.inside p.x p.y then
    { s with cells := s.cells.setIfInBounds (p.y.toNat * s.width + p.x.toNat) ⟨p.char, p.style⟩ }
  else s

/-- Put several characters, one after the other. -/
def putAll (s : Screen) (ps : List Put) : Screen := ps.foldl put s

/-- Empty all cells; the cursor stays. -/
def clear (s : Screen) : Screen :=
  { s with cells := Array.replicate (s.width * s.height) Cell.blank }

/-- Change the size. Cells that still fit keep their content and the cursor is hidden. -/
def resize (s : Screen) (width height : Nat) : Screen :=
  let cells := (Array.range (width * height)).map (fun i ↦
    let x := i % width
    let y := i / width
    if x < s.width && y < s.height then s.cellAt x y else Cell.blank)
  ⟨width, height, cells, -1, -1⟩

/-- Place the cursor. -/
def showCursor (s : Screen) (x y : Int) : Screen := { s with cursorX := x, cursorY := y }

/-- Take the cursor away. -/
def hideCursor (s : Screen) : Screen := s.showCursor (-1) (-1)

/-- The place of the cursor, if it can be seen. -/
def cursor? (s : Screen) : Option (Nat × Nat) :=
  if s.inside s.cursorX s.cursorY then some (s.cursorX.toNat, s.cursorY.toNat) else none

/-- The cells of a row. -/
def row (s : Screen) (y : Nat) : List Cell := (List.range s.width).map (s.cellAt · y)

end Screen

/-- The integers from `first` up to but not including `last`. -/
def interval (first last : Int) : List Int :=
  (List.range (last - first).toNat).map (fun (i : Nat) ↦ first + i)

/-- A filled box, column by column. -/
def rectPuts (x y width height : Int) (c : Char) (style : Style) : List Put :=
  (interval x (wrap (x + width))).flatMap (fun col ↦
    (interval y (wrap (y + height))).map (fun row ↦ ⟨col, row, c, style⟩))

/-- The cells a character of a drawn text moves on by. -/
def advanceWidth (c : Char) : Nat := max (Unicode.cellWidth c) 1

/-- A text in one row, from the given column on. -/
def textPuts (x y : Int) (style : Style) : List Char → List Put
  | [] => []
  | c :: rest => ⟨x, y, c, style⟩ :: textPuts (x + advanceWidth c) y style rest

/-- The number of cells a drawn text takes. -/
def drawnWidth (text : List Char) : Nat :=
  text.foldl (fun cells c ↦ cells + advanceWidth c) 0

end CodeViewer
