import CodeViewer.Clipboard
import CodeViewer.Log
import CodeViewer.Widget.CodeView

/-!
# Copying
-/

namespace CodeViewer

/-- What copying leads to: a message for the status bar, and what goes into the log. -/
structure CopyResult where
  view : CodeView
  clipboard : Clipboard
  message : String
  log : Log

namespace CodeView

/-- Copy a text, of which the message says `what` it is. -/
def copyText (cv : CodeView) (c : Clipboard) (text : ByteArray) (what : String) :
    Except Fault CopyResult := do
  let (c, error?) ← c.write text
  match error? with
  | none =>
    return ⟨cv, c, "copied " ++ what ++ " (" ++ toString text.size ++ " bytes)", []⟩
  | some e =>
    return ⟨cv, c, "copy failed: " ++ e.message, [⟨.error, "can't copy: " ++ e.message⟩]⟩

/-- Copy the token under the cursor. -/
def copyToken (cv : CodeView) (c : Clipboard) : Except Fault CopyResult := do
  let (cv, token?) ← cv.tokenAtCursor
  match token? with
  | none => return ⟨cv, c, "nothing to copy", []⟩
  | some t => cv.copyText c t.text t.cls

/-- Copy the line the cursor is on, without its delimiter. -/
def copyLine (cv : CodeView) (c : Clipboard) : Except Fault CopyResult := do
  let line ← cv.currentLine
  cv.copyText c line "line"

end CodeView

end CodeViewer
