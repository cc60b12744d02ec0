import CodeViewer.Widget.Key

/-!
# Keys from a terminal

A terminal sends characters for keys. Keys without a character of their own send a sequence that
starts with an escape character.
-/

namespace CodeViewer.Terminal

/-- The key of a control character. -/
def controlKey (c : Char) : Key :=
  match c.toNat with
  | 0x08 => .backspace
  | 0x09 => .tab
  | 0x0a => .enter
  | 0x0d => .enter
  | 0x1b => .escape
  | 0x7f => .backspace
  | n => .control (Char.ofNat (n + 0x60))

/-- The key of a single character. -/
def charKey (c : Char) : Key :=
  if c.toNat < 0x20 || c.toNat == 0x7f then controlKey c else .char c

/-- The keys of what a terminal sent. -/
def keys : List Char → List KeyPress
  | [] => []
  | '\x1b' :: '[' :: '1' :: ';' :: '5' :: 'C' :: rest => ⟨.right, true⟩ :: keys rest
  | '\x1b' :: '[' :: '1' :: ';' :: '5' :: 'D' :: rest => ⟨.left, true⟩ :: keys rest
  | '\x1b' :: '[' :: '3' :: '~' :: rest => ⟨.delete, false⟩ :: keys rest
  | '\x1b' :: '[' :: '5' :: '~' :: rest => ⟨.pageUp, false⟩ :: keys rest
  | '\x1b' :: '[' :: '6' :: '~' :: rest => ⟨.pageDown, false⟩ :: keys rest
  | '\x1b' :: '[' :: 'A' :: rest => ⟨.up, false⟩ :: keys rest
  | '\x1b' :: '[' :: 'B' :: rest => ⟨.down, false⟩ :: keys rest
  | '\x1b' :: '[' :: 'C' :: rest => ⟨.right, false⟩ :: keys rest
  | '\x1b' :: '[' :: 'D' :: rest => ⟨.left, false⟩ :: keys rest
  | '\x1b' :: '[' :: 'F' :: rest => ⟨.toEnd, false⟩ :: keys rest
  | '\x1b' :: '[' :: 'H' :: rest => ⟨.home, false⟩ :: keys rest
  | c :: rest => ⟨charKey c, false⟩ :: keys rest

end CodeViewer.Terminal
