import CodeViewer.SourceFile
import CodeViewer.Widget.CodeView

/-!
# What the status bar says
-/

namespace CodeViewer

/-- The texts of the status bar for a view: on the left the file and its language, on the right
the class of the token under the cursor and the place of the cursor, counted from one. The view
is brought up to date. -/
def CodeView.status (cv : CodeView) : Except Fault (CodeView × String × String) := do
  let left := cv.path ++ " [" ++ Language.title cv.language ++ "]"
  let place := toString (cv.cursor.line + 1) ++ ":" ++ toString (cv.cursor.col + 1)
  let (cv, token?) ← cv.tokenAtCursor
  match token? with
  | some t => return (cv, left, t.cls ++ "  " ++ place)
  | none => return (cv, left, place)

end CodeViewer
