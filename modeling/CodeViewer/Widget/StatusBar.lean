import CodeViewer.Screen.Basic
import CodeViewer.Screen.Width
import CodeViewer.Widget.Bounds
import CodeViewer.Widget.Theme

/-!
# The status bar

One row with a text at each edge. An error takes the place of the left text and changes the
style. Text that does not fit is cut.
-/

namespace CodeViewer

/-- A status bar. -/
structure StatusBar where
  left : String
  right : String
  error : Option String
  bounds : Bounds
  theme : Option Theme

namespace StatusBar

/-- A status bar without texts. -/
def new (theme : Option Theme) : StatusBar := ⟨"", "", none, ⟨0, 0, 0, 1⟩, theme⟩

/-- The least width and height. -/
def minSize : Int × Int := (0, 1)

/-- The style of the bar. -/
def style (b : StatusBar) : Except Fault Style :=
  Theme.styleOf b.theme (if b.error.isSome then "StatusBarError" else "StatusBar")

/-- The right text as it is drawn. -/
def rightText (b : StatusBar) : List Char := Width.truncate b.right.toList b.bounds.width

/-- The left text, or the error, as it is drawn: a column is left free before the right text. -/
def leftText (b : StatusBar) : List Char :=
  Width.truncate (b.error.getD b.left).toList
    (max (wrap (b.bounds.width - Width.ofText b.rightText - 1)) 0)

/-- What the bar puts on the screen. -/
def puts (b : StatusBar) : Except Fault (List Put) := do
  let style ← b.style
  let { x, y, width, height := _ } := b.bounds
  return rectPuts x y width 1 ' ' style
    ++ textPuts x y style b.leftText
    ++ textPuts (wrap (x + width - Width.ofText b.rightText)) y style b.rightText

/-- Draw the bar. -/
def draw (b : StatusBar) (s : Screen) : Except Fault Screen := do
  let ps ← b.puts
  return s.putAll ps

end StatusBar

end CodeViewer
