import CodeViewer.Buffer.Rope
import CodeViewer.Fault

/-!
# Buffers

A buffer is a text that is read by lines and columns, both counted from zero. Columns count
characters. A line ends with a line feed, before which a carriage return counts as part of the
delimiter; the last line has no delimiter and may be empty, so there is always one.
-/

namespace CodeViewer

/-- A text that cannot be changed. -/
structure Buffer where
  rope : Rope

namespace Buffer

/-- The byte sequence that ends a line. -/
def lineFeed : ByteArray := ⟨#[0x0a]⟩

/-- The buffer of a text. -/
def ofBytes (contents : ByteArray) : Buffer := ⟨Rope.ofBytes contents⟩

/-- The whole text. -/
def bytes (b : Buffer) : ByteArray := b.rope.toBytes

/-- The number of bytes. -/
def size (b : Buffer) : Nat := b.rope.size

/-- The number of lines. -/
def lines (b : Buffer) : Nat := b.rope.count 0 b.size lineFeed + 1

/-- The offset of the first byte of a line, which is the size of the buffer for an empty last
line. Lines before the first start where it does. -/
def lineStart (b : Buffer) (line : Int) : Except Fault Nat :=
  match Rope.skipLines 0 line.toNat b.rope.leaves with
  | some offset => .ok offset
  | none => .error .missingLine

/-- Whether a line feed stands at an offset. -/
def isLineFeed (b : Buffer) (pos : Nat) : Bool := pos < b.size && b.rope.byteAt pos == 0x0a

/-- Whether a character that stands at an offset starts the delimiter of its line. -/
def isDelimiter (b : Buffer) (pos : Nat) (c : Char) : Bool :=
  c == '\n' || (c == '\r' && b.isLineFeed (pos + 1))

/-- A line with its delimiter. -/
def line (b : Buffer) (line : Int) : Except Fault ByteArray := do
  let start ← b.lineStart line
  let stop :=
    match (b.rope.charsUntil (fun _ c ↦ c == '\n') start).2 with
    | some pos => pos + 1
    | none => b.size
  return b.rope.slice start stop

/-- The number of characters of a line, without its delimiter. -/
def charsInLine (b : Buffer) (line : Int) : Except Fault Nat := do
  let start ← b.lineStart line
  return (b.rope.charsUntil b.isDelimiter start).1.size

/-- The offset of a column of a line; past the last character it is that of the delimiter. -/
def offsetOf (b : Buffer) (line col : Int) : Except Fault Nat := do
  let start ← b.lineStart line
  if col ≤ 0 then
    return start
  else
    let (chars, stop) := b.rope.charsUntil b.isDelimiter start
    match chars[col.toNat]? with
    | some (pos, _) => return pos
    | none => return stop.getD b.size

/-- The line and column reached behind a character. -/
def advancePosition (p : Nat × Nat) (c : Char) : Nat × Nat :=
  if c == '\n' then (p.1 + 1, 0) else (p.1, p.2 + 1)

/-- The line and column of an offset, which is taken into the buffer first. -/
def positionOf (b : Buffer) (pos : Int) : Nat × Nat :=
  if pos ≤ 0 then (0, 0)
  else
    (b.rope.charsUntil (fun offset _ ↦ pos.toNat ≤ offset) 0).1.foldl
      (fun p c ↦ advancePosition p c.2) (0, 0)

/-- The nearest line of the buffer, and on it the nearest column. -/
def clamp (b : Buffer) (line col : Int) : Except Fault (Nat × Nat) := do
  let line := min line.toNat (b.lines - 1)
  if col < 0 then
    return (line, 0)
  else
    let chars ← b.charsInLine line
    return (line, min col.toNat chars)

/-- The number of occurrences of a sequence between two positions. -/
def count (b : Buffer) (startLine startCol endLine endCol : Int) (seq : ByteArray) :
    Except Fault Nat := do
  let start ← b.offsetOf startLine startCol
  let stop ← b.offsetOf endLine endCol
  if stop < start then
    throw .outOfRange
  else
    return b.rope.count start stop seq

/-- Write the buffer leaf by leaf to a sink that takes at most `limit` writes, if it has a
limit: what was written, and whether all was. -/
def writeTo (b : Buffer) (limit : Option Nat) : ByteArray × Bool :=
  let leaves := b.rope.leaves
  let taken :=
    match limit with
    | some n => leaves.take n
    | none => leaves
  (taken.foldl (· ++ ·) ByteArray.empty, taken.length == leaves.length)

end Buffer

end CodeViewer
