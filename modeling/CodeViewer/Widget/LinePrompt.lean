import CodeViewer.Text.Integer
import CodeViewer.Widget.InputField

/-!
# Asking for a line

The prompt takes digits only. Enter chooses the line that is typed, counted from one, and Esc
gives up; so does Enter on a text that names no line.
-/

namespace CodeViewer

/-- How a prompt ends. -/
inductive PromptAnswer where
  | chosen (line : Int)
  | cancelled
  deriving DecidableEq, Repr

/-- A prompt for the number of a line. -/
structure LinePrompt where
  field : InputField

namespace LinePrompt

/-- An empty prompt. -/
def new (theme : Option Theme) : LinePrompt := ⟨InputField.new "Go to line: " theme⟩

/-- The answer that a text comes to. -/
def answerOf (text : List Char) : PromptAnswer :=
  match Text.parseDecimal (Text.trimSpace text) with
  | .ok n => if n < 1 then .cancelled else .chosen n
  | .error _ => .cancelled

/-- Pass a key on to the field. -/
def passOn (p : LinePrompt) (k : Key) (s : Screen) :
    Bool × LinePrompt × Screen × Option PromptAnswer :=
  let (handled, field, s) := p.field.handleKey k s
  (handled, ⟨field⟩, s, none)

/-- React to a key: whether the prompt knows it, and the answer if it brings one. Characters
other than digits are swallowed. -/
def handleKey (p : LinePrompt) (k : Key) (s : Screen) :
    Bool × LinePrompt × Screen × Option PromptAnswer :=
  match k with
  | .enter => (true, p, s, some (answerOf p.field.text))
  | .escape => (true, p, s, some .cancelled)
  | .char c => if '0' ≤ c && c ≤ '9' then p.passOn k s else (true, p, s, none)
  | _ => p.passOn k s

end LinePrompt

end CodeViewer
