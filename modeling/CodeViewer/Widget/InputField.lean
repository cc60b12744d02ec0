import CodeViewer.Screen.Basic
import CodeViewer.Screen.Width
import CodeViewer.Widget.Bounds
import CodeViewer.Widget.Key
import CodeViewer.Widget.Theme

/-!
# The input field

A row with a prompt and a text that is edited at a cursor. The text scrolls so that the cursor
stays in view.
-/

namespace CodeViewer

/-- An input field. -/
structure InputField where
  prompt : String
  text : List Char
  /-- The number of characters before the cursor. -/
  cursor : Nat
  /-- The number of characters scrolled out of view on the left. -/
  scroll : Int
  bounds : Bounds
  focused : Bool
  theme : Option Theme

namespace InputField

/-- An empty input field. -/
def new (prompt : String) (theme : Option Theme) : InputField :=
  ⟨prompt, [], 0, 0, ⟨0, 0, 0, 1⟩, false, theme⟩

/-- The text as a string. -/
def contents (f : InputField) : String := String.ofList f.text

/-- The cells of the prompt. -/
def promptWidth (f : InputField) : Nat := Width.ofText f.prompt.toList

/-- The column at which the text starts. -/
def textX (f : InputField) : Int := wrap (f.bounds.x + f.promptWidth)

/-- The number of characters in view; at least one. -/
def textWidth (f : InputField) : Int := max (wrap (f.bounds.width - f.promptWidth)) 1

/-- The least width and height. -/
def minSize (f : InputField) : Int × Int := (f.promptWidth + 1, 1)

/-- The scroll position that shows a cursor. -/
def scrollFor (f : InputField) (cursor : Nat) : Int :=
  if wrap (f.scroll + f.textWidth) ≤ cursor then wrap (cursor - f.textWidth + 1)
  else if cursor < f.scroll then cursor
  else f.scroll

/-- Move the cursor to the nearest place and scroll to it. -/
def moveTo (f : InputField) (cursor : Int) : InputField :=
  let cursor := min cursor.toNat f.text.length
  { f with cursor := cursor, scroll := f.scrollFor cursor }

/-- Show the cursor on the screen, if the field is focused. -/
def showCursor (f : InputField) (s : Screen) : Screen :=
  if f.focused then s.showCursor (wrap (f.textX + f.cursor - f.scroll)) f.bounds.y else s

/-- Move the cursor and show it. -/
def setCursor (f : InputField) (cursor : Int) (s : Screen) : InputField × Screen :=
  let f := f.moveTo cursor
  (f, f.showCursor s)

/-- Type a character at the cursor. -/
def insert (f : InputField) (c : Char) (s : Screen) : InputField × Screen :=
  setCursor { f with text := f.text.take f.cursor ++ c :: f.text.drop f.cursor }
    (f.cursor + 1) s

/-- Remove the character at an index and move the cursor there. -/
def removeAt (f : InputField) (i : Nat) (s : Screen) : InputField × Screen :=
  if i < f.text.length then
    setCursor { f with text := f.text.take i ++ f.text.drop (i + 1) } i s
  else (f, s)

/-- Remove the character under the cursor, if `forward`, or else the one before it. -/
def remove (f : InputField) (forward : Bool) (s : Screen) : InputField × Screen :=
  if forward then f.removeAt f.cursor s
  else if f.cursor = 0 then (f, s)
  else f.removeAt (f.cursor - 1) s

/-- The part of the text that is in view. -/
def visibleText (f : InputField) : Except Fault (List Char) :=
  if f.text.isEmpty then .ok []
  else if f.scroll < 0 || f.text.length < f.scroll then .error .outOfRange
  else .ok ((f.text.drop f.scroll.toNat).take f.textWidth.toNat)

/-- The background and the prompt. -/
def framePuts (f : InputField) (style : Style) : List Put :=
  rectPuts f.bounds.x f.bounds.y f.bounds.width 1 ' ' style
    ++ textPuts f.bounds.x f.bounds.y style f.prompt.toList

/-- What the field puts on the screen. -/
def puts (f : InputField) : Except Fault (List Put) := do
  let style ← Theme.styleOf f.theme "InputField"
  let text ← f.visibleText
  return f.framePuts style ++ textPuts f.textX f.bounds.y style text

/-- Draw the field. Only then is the text scrolled to the cursor again. -/
def draw (f : InputField) (s : Screen) : Except Fault (InputField × Screen) := do
  let ps ← f.puts
  return f.setCursor f.cursor (s.putAll ps)

/-- The screen after a draw that failed: the background and the prompt come before the text. -/
def afterFault (f : InputField) (s : Screen) : Screen :=
  match Theme.styleOf f.theme "InputField" with
  | .ok style => s.putAll (f.framePuts style)
  | .error _ => s

/-- Give or take the focus, which shows or hides the cursor. -/
def setFocused (f : InputField) (focused : Bool) (s : Screen) : InputField × Screen :=
  let f := { f with focused := focused }
  if focused then f.setCursor f.cursor s else (f, s.hideCursor)

/-- React to a key; the Boolean says whether the field knows it. -/
def handleKey (f : InputField) (k : Key) (s : Screen) : Bool × InputField × Screen :=
  match k with
  | .left => (true, f.setCursor ((f.cursor : Int) - 1) s)
  | .right => (true, f.setCursor (f.cursor + 1) s)
  | .home => (true, f.setCursor 0 s)
  | .toEnd => (true, f.setCursor f.text.length s)
  | .backspace => (true, f.remove false s)
  | .delete => (true, f.remove true s)
  | .char c => (true, f.insert c s)
  | _ => (false, f, s)

end InputField

end CodeViewer
