import CodeViewer.Text.Storage

/-!
# Reading bytes as characters

A text is any sequence of bytes. It is read as UTF-8 from left to right; a byte that starts
no well-formed character stands for itself and is shown as U+FFFD. The pieces read from a
text lie end to end and cover it.
-/

namespace CodeViewer.Text

/-- The character shown for a byte that belongs to no character. -/
def replacement : Char := Char.ofNat 0xfffd

/-- What is read at one place of a text: a character, or a byte that starts none. -/
inductive Piece where
  | char (c : Char)
  | stray (b : UInt8)
  deriving DecidableEq, Repr, Inhabited

/-- The character a piece is shown as. -/
def Piece.toChar : Piece → Char
  | .char c => c
  | .stray _ => replacement

/-- The number of bytes a piece takes. -/
def Piece.size : Piece → Nat
  | .char c => c.utf8Size
  | .stray _ => 1

/-- The byte at an index; zero past the end. -/
def byteAt (text : ByteArray) (i : Nat) : UInt8 :=
  if h : i < text.size then text[i] else 0

/-- The piece that starts at an index. -/
def pieceAt (text : ByteArray) (i : Nat) : Piece :=
  match text.utf8DecodeChar? i with
  | some c => .char c
  | none => .stray (byteAt text i)

/-- Append the pieces from index `i` on, each with its offset, to `acc`. A piece takes at
least one byte, so `fuel` need not exceed the number of bytes left. -/
def piecesFrom (text : ByteArray) :
    (fuel i : Nat) → (acc : Array (Nat × Piece)) → Array (Nat × Piece)
  | 0, _, acc => acc
  | fuel + 1, i, acc =>
    if i < text.size then
      let p := pieceAt text i
      piecesFrom text fuel (i + p.size) (acc.push (i, p))
    else acc

/-- All pieces of a text with their byte offsets. -/
def pieces (text : ByteArray) : Array (Nat × Piece) := piecesFrom text text.size 0 #[]

/-- The characters of a text. -/
def chars (text : ByteArray) : Array Char := (pieces text).map (·.2.toChar)

/-- The characters of a text as a string, with U+FFFD for every stray byte. -/
def decode (text : ByteArray) : String := String.ofList (chars text).toList

/-- The bytes of a string. -/
def encode (s : String) : ByteArray := s.toUTF8

/-- A text that has been read: its bytes, its characters, and the byte offset of every
character followed by the length of the text. -/
structure Source where
  text : ByteArray
  chars : Array Char
  offsets : Array Nat

/-- Read a text. -/
def Source.ofText (text : ByteArray) : Source :=
  let ps := pieces text
  ⟨text, ps.map (·.2.toChar), (ps.map (·.1)).push text.size⟩

/-- The number of characters. -/
def Source.size (s : Source) : Nat := s.chars.size

/-- The byte offset of the character at index `i`, or the length of the text past the last. -/
def Source.offset (s : Source) (i : Nat) : Nat := (s.offsets[i]?).getD s.text.size

/-- The bytes of the characters from index `start` up to `stop`. -/
def Source.slice (s : Source) (start stop : Nat) : ByteArray :=
  s.text.extract (s.offset start) (s.offset stop)

/-- The characters from index `start` up to `stop` as a string. Characters that are stored
behind the end count too; where none are stored, there is no such string. -/
def Source.excerpt? (s : Source) (start stop : Nat) : Option String :=
  if storedCount s.size < stop then none
  else
    some (String.ofList ((s.chars.extract start stop).toList
      ++ List.replicate (stop - max start s.size) (Char.ofNat 0)))

end CodeViewer.Text
