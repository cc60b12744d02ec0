/-!
# Events

What a terminal reports: keys, each with the modifiers held down, and changes of its size.
-/

namespace CodeViewer

/-- A key of the terminal. -/
inductive Key where
  | up
  | down
  | left
  | right
  | home
  | toEnd
  | pageUp
  | pageDown
  | enter
  | escape
  | tab
  | backspace
  | delete
  /-- A function key. -/
  | function (number : Nat)
  /-- A letter together with the control key. -/
  | control (letter : Char)
  /-- A character. -/
  | char (c : Char)
  deriving DecidableEq, Repr

/-- A key as it is pressed. -/
structure KeyPress where
  key : Key
  /-- Whether the control key is held down, apart from what the key itself says. -/
  ctrl : Bool
  deriving DecidableEq, Repr

/-- What a terminal reports. -/
inductive Event where
  | key (press : KeyPress)
  /-- The size has to be looked up again; if one is given, it is the new one. -/
  | resize (size : Option (Nat × Nat))
  deriving DecidableEq, Repr

/-- A key without modifiers. -/
def Event.ofKey (k : Key) : Event := .key ⟨k, false⟩

end CodeViewer
