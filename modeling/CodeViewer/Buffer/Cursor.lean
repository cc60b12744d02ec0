import CodeViewer.Buffer.Basic

/-!
# Cursors

A cursor is a place in a buffer. Every motion gives a moved cursor and needs the buffer to know
where lines end.
-/

namespace CodeViewer

/-- A place in the buffer with the number `owner`, if it is in any. -/
structure Cursor where
  owner : Option Nat
  line : Nat
  col : Nat
  deriving DecidableEq, Repr

namespace Cursor

/-- The start of a buffer. -/
def start (owner : Nat) : Cursor := ⟨some owner, 0, 0⟩

/-- Move to the nearest place to a line and column. -/
def setLineCol (b : Buffer) (c : Cursor) (line col : Int) : Except Fault Cursor := do
  let (line, col) ← b.clamp line col
  return { c with line := line, col := col }

/-- Move past the last character of the line. -/
def toEnd (b : Buffer) (c : Cursor) : Except Fault Cursor := do
  let chars ← b.charsInLine c.line
  return { c with col := chars }

/-- Move to the first column. -/
def home (c : Cursor) : Cursor := { c with col := 0 }

/-- One character back; from the start of a line to the end of the line above. -/
def left (b : Buffer) (c : Cursor) : Except Fault Cursor :=
  if c.col = 0 && c.line != 0 then toEnd b { c with line := c.line - 1 }
  else .ok { c with col := c.col - 1 }

/-- One character on; from the end of a line to the start of the line below. -/
def right (b : Buffer) (c : Cursor) : Except Fault Cursor := do
  let chars ← b.charsInLine c.line
  if chars ≤ c.col && c.line + 1 < b.lines then
    c.setLineCol b (c.line + 1) 0
  else
    c.setLineCol b c.line (c.col + 1)

/-- One line up; from the first line to its start. -/
def up (b : Buffer) (c : Cursor) : Except Fault Cursor :=
  if c.line = 0 then .ok { c with line := 0, col := 0 }
  else c.setLineCol b (c.line - 1) c.col

/-- A column behind the end of every line. -/
def farColumn : Int := 2147483647

/-- One line down; from the last line to its end. -/
def down (b : Buffer) (c : Cursor) : Except Fault Cursor :=
  if c.line + 1 = b.lines then c.setLineCol b c.line farColumn
  else c.setLineCol b (c.line + 1) c.col

/-- The byte offset of the character under the cursor. -/
def offset (b : Buffer) (c : Cursor) : Except Fault Nat := b.offsetOf c.line c.col

/-- Move to the character that holds a byte offset. -/
def setOffset (b : Buffer) (c : Cursor) (pos : Int) : Cursor :=
  let (line, col) := b.positionOf pos
  { c with line := line, col := col }

end Cursor

end CodeViewer
