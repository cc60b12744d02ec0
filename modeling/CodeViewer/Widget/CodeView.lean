import CodeViewer.Buffer.Cursor
import CodeViewer.Highlight.Highlighter
import CodeViewer.Screen.Basic
import CodeViewer.Widget.Bounds
import CodeViewer.Widget.Key

/-!
# The code view

A highlighted buffer with line numbers and a cursor. The view scrolls so that the cursor stays
in sight, and knows the token under it.
-/

namespace CodeViewer

/-- A view of a buffer. -/
structure CodeView where
  path : String
  buffer : Buffer
  highlighter : Highlighter
  lineNumbers : Bool
  /-- The cells a tab takes. -/
  tabSize : Int
  cursor : Cursor
  /-- The cells scrolled out of sight on the left. -/
  scrollX : Int
  /-- The lines scrolled out of sight at the top. -/
  scrollY : Int
  bounds : Bounds
  focused : Bool

namespace CodeView

/-- Show another text from its start on. -/
def setContents (cv : CodeView) (contents : ByteArray) (language : Option Language) :
    CodeView :=
  let buffer := Buffer.ofBytes contents
  { cv with
    buffer := buffer
    highlighter := Highlighter.ofBuffer buffer language (some ColorScheme.standard)
    cursor := Cursor.start 0
    scrollX := 0
    scrollY := 0 }

/-- A view of a text. -/
def new (path : String) (contents : ByteArray) (language : Option Language) : CodeView :=
  let buffer := Buffer.ofBytes contents
  { path := path
    buffer := buffer
    highlighter := Highlighter.ofBuffer buffer language (some ColorScheme.standard)
    lineNumbers := true
    tabSize := 4
    cursor := Cursor.start 0
    scrollX := 0
    scrollY := 0
    bounds := ⟨0, 0, 0, 0⟩
    focused := false }

/-- The language the buffer is shown in. -/
def language (cv : CodeView) : Option Language := cv.highlighter.language

/-- Bring the highlighting up to date. -/
def highlight (cv : CodeView) : Except Fault CodeView :=
  match cv.highlighter.updateInvalidated with
  | (h, none) => .ok { cv with highlighter := h }
  | (_, some fault) => .error fault

/-- The view after a fault. If that was met by a scan, the tokens before it are kept and the scan
is not done again. -/
def afterFault (cv : CodeView) : CodeView :=
  match cv.highlighter.updateInvalidated with
  | (_, none) => cv
  | (h, some _) => { cv with highlighter := h }

/-- The token under the cursor of a view that is brought up to date first. -/
def tokenAtCursor (cv : CodeView) : Except Fault (CodeView × Option Token) := do
  let cv ← cv.highlight
  let pos ← cv.cursor.offset cv.buffer
  return (cv, cv.highlighter.tokenAt? pos)

/-- A line without its delimiter. -/
def trimDelimiter (line : ByteArray) : ByteArray :=
  let n := line.size
  if 0 < n && Text.byteAt line (n - 1) == 0x0a then
    if 1 < n && Text.byteAt line (n - 2) == 0x0d then line.extract 0 (n - 2)
    else line.extract 0 (n - 1)
  else line

/-- The line the cursor is on, without its delimiter. -/
def currentLine (cv : CodeView) : Except Fault ByteArray := do
  let line ← cv.buffer.line cv.cursor.line
  return trimDelimiter line

/-- The characters of a line, without its delimiter. -/
def lineChars (cv : CodeView) (line : Int) : Except Fault (List Char) := do
  let bytes ← cv.buffer.line line
  return (Text.chars (trimDelimiter bytes)).toList

/-! ## Geometry -/

/-- The cells a character takes. A control character is drawn as a placeholder. -/
def charWidth (cv : CodeView) (c : Char) : Int :=
  if c == '\t' then cv.tabSize
  else if Unicode.isControl c then 1
  else Unicode.cellWidth c

/-- The cells a text takes. -/
def textWidth (cv : CodeView) (text : List Char) : Int :=
  text.foldl (fun cells c ↦ wrap (cells + cv.charWidth c)) 0

/-- The cells before a column of a line. -/
def visualCol (cv : CodeView) (line : Int) (col : Nat) : Except Fault Int := do
  let chars ← cv.lineChars line
  return cv.textWidth (chars.take col)

/-- The width of the column of line numbers, with the bar behind it. -/
def columnWidth (cv : CodeView) : Int :=
  if cv.lineNumbers then max 3 (1 + (toString cv.buffer.lines).length) else 0

/-- Show the terminal's cursor at the cursor, if the view is focused. -/
def showCursor (cv : CodeView) (s : Screen) : Except Fault Screen := do
  if cv.focused then
    let vcol ← cv.visualCol cv.cursor.line cv.cursor.col
    return s.showCursor (wrap (cv.bounds.x + cv.columnWidth + vcol - cv.scrollX))
      (wrap (cv.bounds.y + cv.cursor.line - cv.scrollY))
  else
    return s

/-- The scroll position that shows a place, in a window of `room` from `scroll` on. -/
def scrollFor (place scroll room : Int) : Int :=
  if wrap (scroll + room - 1) ≤ place then max (wrap (place - room + 1)) 0
  else if place < scroll then place
  else scroll

/-- Scroll as far as it takes to show the cursor. -/
def scrollToCursor (cv : CodeView) : Except Fault CodeView := do
  let vcol ← cv.visualCol cv.cursor.line cv.cursor.col
  return { cv with
    scrollY := scrollFor cv.cursor.line cv.scrollY cv.bounds.height
    scrollX := scrollFor vcol cv.scrollX (wrap (cv.bounds.width - cv.columnWidth)) }

/-- Move the cursor, scroll to it and show it. -/
def setCursor (cv : CodeView) (c : Cursor) (s : Screen) : Except Fault (CodeView × Screen) := do
  let cv ← scrollToCursor { cv with cursor := c }
  let s ← cv.showCursor s
  return (cv, s)

/-- Give or take the focus, which shows or hides the cursor. -/
def setFocused (cv : CodeView) (focused : Bool) (s : Screen) :
    Except Fault (CodeView × Screen) := do
  let cv := { cv with focused := focused }
  if focused then
    let s ← cv.showCursor s
    return (cv, s)
  else
    return (cv, s.hideCursor)

/-! ## Drawing -/

/-- The style of a column, given the matches of the line that do not end before it. -/
def styleAt (cv : CodeView) (plain : Style) (col : Nat) : List Match → Style
  | [] => plain
  | m :: _ => if m.first ≤ col then cv.highlighter.styleOf m else plain

/-- What one character puts on row `y` if it starts at column `x` of the screen: all cells of a
tab that lie between `left` and `right`, or the character if it lies there as a whole. -/
def charPuts (cv : CodeView) (left right x y : Int) (style : Style) (c : Char) : List Put :=
  if c == '\t' then
    (interval (max left x) (min right (x + cv.tabSize))).map (fun x ↦ ⟨x, y, ' ', style⟩)
  else if left ≤ x && wrap (x + cv.charWidth c) ≤ right then
    [⟨x, y, if Unicode.isControl c then '?' else c, style⟩]
  else []

/-- What the characters of a line from column `col` on put on row `y`, if `cells` cells come
before them. `ms` holds the matches of the line that may still cover one of them. -/
def linePuts (cv : CodeView) (left right y : Int) (plain : Style) :
    (ms : List Match) → (cells : Int) → (col : Nat) → List Char → List Put
  | _, _, _, [] => []
  | ms, cells, col, c :: rest =>
    let ms := ms.dropWhile (·.last < col)
    let x := wrap (left + cells - cv.scrollX)
    let here := cv.charPuts left right x y (cv.styleAt plain col ms) c
    let cells := wrap (cells + cv.charWidth c)
    if right ≤ wrap (left + cells - cv.scrollX) then here
    else here ++ linePuts cv left right y plain ms cells (col + 1) rest

/-- What the text of a line puts on row `y`. -/
def textLinePuts (cv : CodeView) (plain : Style) (line y : Int) : Except Fault (List Put) := do
  let chars ← cv.lineChars line
  return cv.linePuts (wrap (cv.bounds.x + cv.columnWidth))
    (wrap (cv.bounds.x + cv.bounds.width)) y plain
    (cv.highlighter.matchesOf line).toList 0 0 chars

/-- The line number of a row, aligned to the right, and a bar. -/
def numberText (columnWidth : Int) (number : String) : Except Fault (List Char) :=
  let gap := columnWidth - number.length - 1
  if gap < 0 then .error .negativeCount
  else .ok (List.replicate gap.toNat ' ' ++ number.toList ++ ['│'])

/-- What the view puts on row `y`. -/
def rowPuts (cv : CodeView) (y : Int) : Except Fault (List Put) := do
  let { x, y := top, width, height := _ } := cv.bounds
  let column := cv.columnWidth
  let plain := ColorScheme.styleOf cv.highlighter.scheme .default
  let line := wrap (y + cv.scrollY - top)
  let inBuffer : Bool := line < cv.buffer.lines
  let background := rectPuts (wrap (x + column)) y (wrap (width - column)) 1 ' ' plain
  let text ← if inBuffer then cv.textLinePuts plain line y else pure []
  let number ←
    if 0 < column then do
      let chars ← numberText column (if inBuffer then toString (line + 1) else "")
      pure (textPuts x y (ColorScheme.styleOf cv.highlighter.scheme .column) chars)
    else pure []
  return background ++ text ++ number

/-- What the view puts on the screen. -/
def puts (cv : CodeView) : Except Fault (List Put) := do
  let rows ← (interval cv.bounds.y (wrap (cv.bounds.y + cv.bounds.height))).mapM cv.rowPuts
  return rows.flatten

/-- Draw the view, after bringing the highlighting up to date. -/
def draw (cv : CodeView) (s : Screen) : Except Fault (CodeView × Screen) := do
  let cv ← cv.highlight
  let ps ← cv.puts
  let s ← cv.showCursor (s.putAll ps)
  return (cv, s)

/-! ## Keys -/

/-- The cursor at the start of the token behind the one under it. -/
def nextToken (cv : CodeView) : Except Fault (CodeView × Cursor) := do
  let (cv, token?) ← cv.tokenAtCursor
  match token? with
  | some t => return (cv, cv.cursor.setOffset cv.buffer t.stop)
  | none => return (cv, cv.cursor)

/-- The cursor at the start of the token that holds the byte before it. -/
def prevToken (cv : CodeView) : Except Fault (CodeView × Cursor) := do
  let cv ← cv.highlight
  let pos ← cv.cursor.offset cv.buffer
  if pos = 0 then
    return (cv, cv.cursor)
  else
    match cv.highlighter.tokenAt? (pos - 1 : Nat) with
    | some t => return (cv, cv.cursor.setOffset cv.buffer t.start)
    | none => return (cv, cv.cursor)

/-- The cursor a key moves to, if the view knows the key. -/
def motion (cv : CodeView) (k : KeyPress) : Except Fault (Option (CodeView × Cursor)) := do
  let moved (c : Cursor) : Option (CodeView × Cursor) := some (cv, c)
  match k.key with
  | .up => return moved (← cv.cursor.up cv.buffer)
  | .down => return moved (← cv.cursor.down cv.buffer)
  | .left =>
    if k.ctrl then return some (← cv.prevToken)
    else return moved (← cv.cursor.left cv.buffer)
  | .right =>
    if k.ctrl then return some (← cv.nextToken)
    else return moved (← cv.cursor.right cv.buffer)
  | .home => return moved cv.cursor.home
  | .toEnd => return moved (← cv.cursor.toEnd cv.buffer)
  | .pageUp =>
    return moved
      (← cv.cursor.setLineCol cv.buffer (wrap (cv.cursor.line - cv.bounds.height)) cv.cursor.col)
  | .pageDown =>
    return moved
      (← cv.cursor.setLineCol cv.buffer (wrap (cv.cursor.line + cv.bounds.height)) cv.cursor.col)
  | _ => return none

/-- React to a key; the Boolean says whether the view knows it. -/
def handleKey (cv : CodeView) (k : KeyPress) (s : Screen) :
    Except Fault (Bool × CodeView × Screen) := do
  match ← cv.motion k with
  | none => return (false, cv, s)
  | some (cv, c) =>
    let (cv, s) ← cv.setCursor c s
    return (true, cv, s)

/-- Move the cursor to the start of a line, counted from one. -/
def gotoLine (cv : CodeView) (line : Int) (s : Screen) : Except Fault (CodeView × Screen) := do
  let c ← cv.cursor.setLineCol cv.buffer (wrap (line - 1)) 0
  cv.setCursor c s

end CodeView

end CodeViewer
