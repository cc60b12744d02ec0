import CodeViewer.Text.Utf8

/-!
# Ropes

A rope holds a text as a tree of leaves. It is built by halving until every leaf is small
enough; joining two small ropes makes one leaf again. Characters are read leaf by leaf, so one
that is cut by the border of two leaves is read as stray bytes.
-/

namespace CodeViewer

/-- A text as a tree; a node knows the number of its bytes. -/
inductive Rope where
  | leaf (bytes : ByteArray)
  | node (size : Nat) (left right : Rope)

namespace Rope

/-- Leaves of more bytes are halved. -/
def splitLength : Nat := 16384

/-- Nodes of fewer bytes become leaves. -/
def joinLength : Nat := 8192

/-- The number of bytes. -/
def size : Rope → Nat
  | leaf bytes => bytes.size
  | node size _ _ => size

/-- Build a rope by halving at most `fuel` times in a row. -/
def build : (fuel : Nat) → ByteArray → Rope
  | 0, bytes => leaf bytes
  | fuel + 1, bytes =>
    if bytes.size ≤ splitLength then leaf bytes
    else
      let middle := bytes.size / 2
      node bytes.size (build fuel (bytes.extract 0 middle))
        (build fuel (bytes.extract middle bytes.size))

/-- The rope of a text. -/
def ofBytes (bytes : ByteArray) : Rope := build bytes.size bytes

/-- The texts of the leaves, from left to right. -/
def leaves : Rope → List ByteArray
  | leaf bytes => [bytes]
  | node _ left right => left.leaves ++ right.leaves

/-- The whole text. -/
def toBytes (r : Rope) : ByteArray := r.leaves.foldl (· ++ ·) ByteArray.empty

/-- Join two ropes; a small result is one leaf. -/
def join (left right : Rope) : Rope :=
  if left.size + right.size < joinLength then leaf (left.toBytes ++ right.toBytes)
  else node (left.size + right.size) left right

/-- The ropes of the first `i` bytes and of the rest. -/
def splitAt : Rope → (i : Nat) → Rope × Rope
  | leaf bytes, i => (ofBytes (bytes.extract 0 i), ofBytes (bytes.extract i bytes.size))
  | node _ left right, i =>
    if i = left.size then (left, right)
    else if i < left.size then
      let (l, r) := left.splitAt i
      (l, join r right)
    else
      let (l, r) := right.splitAt (i - left.size)
      (join left l, r)

/-- The bytes from offset `start` up to `stop`. -/
def slice : Rope → (start stop : Nat) → ByteArray
  | leaf bytes, start, stop => bytes.extract start stop
  | node _ left right, start, stop =>
    let m := left.size
    (if start < m then left.slice start (min stop m) else ByteArray.empty)
      ++ (if m < stop then right.slice (start - m) (stop - m) else ByteArray.empty)

/-- The byte at an offset; zero past the end. -/
def byteAt : Rope → (i : Nat) → UInt8
  | leaf bytes, i => Text.byteAt bytes i
  | node _ left right, i =>
    if i < left.size then left.byteAt i else right.byteAt (i - left.size)

/-! ## Occurrences of bytes -/

/-- Whether `seq` stands at index `i` of a leaf. -/
def standsAt (text seq : ByteArray) (i : Nat) : Bool :=
  seq.size.all (fun k _ ↦ Text.byteAt text (i + k) == Text.byteAt seq k)

/-- Count the occurrences of a non-empty sequence in a leaf from index `i` on, none of which
overlaps the one before; `found` were counted so far. -/
def countFrom (text seq : ByteArray) : (fuel i found : Nat) → Nat
  | 0, _, found => found
  | fuel + 1, i, found =>
    if text.size < i + seq.size then found
    else if standsAt text seq i then countFrom text seq fuel (i + seq.size) (found + 1)
    else countFrom text seq fuel (i + 1) found

/-- The number of occurrences of a sequence in a leaf. The empty sequence occurs at every place
between characters. -/
def countInLeaf (text seq : ByteArray) : Nat :=
  if seq.size = 0 then (Text.pieces text).size + 1 else countFrom text seq text.size 0 0

/-- The number of occurrences of a sequence within the leaves of the rope between two offsets. -/
def count (r : Rope) (start stop : Nat) (seq : ByteArray) : Nat :=
  let middle := ((r.splitAt start).2.splitAt (stop - start)).1
  middle.leaves.foldl (fun n leaf ↦ n + countInLeaf leaf seq) 0

/-- The offset behind the `n`-th line feed from index `i` on of a leaf that starts at offset
`base`, or how many are still missing at its end. -/
def skipLineFeeds (text : ByteArray) (base : Nat) : (fuel n i : Nat) → Nat ⊕ Nat
  | 0, n, _ => .inl n
  | fuel + 1, n, i =>
    if n = 0 then .inr (base + i)
    else if text.size ≤ i then .inl n
    else
      skipLineFeeds text base fuel (if Text.byteAt text i == 0x0a then n - 1 else n) (i + 1)

/-- The offset behind the `n`-th line feed of a list of leaves, the first of which starts at
offset `base`. -/
def skipLines : (base n : Nat) → List ByteArray → Option Nat
  | base, 0, _ => some base
  | _, _ + 1, [] => none
  | base, n + 1, text :: texts =>
    match skipLineFeeds text base (text.size + 1) (n + 1) 0 with
    | .inr offset => some offset
    | .inl missing => skipLines (base + text.size) missing texts

/-! ## Characters -/

/-- The characters of a leaf from index `i` on that come before the first one that `stop`
accepts, with their offsets in a text in which the leaf starts at `base`, and the offset of the
one accepted, if there is one. -/
def leafUntil (stop : Nat → Char → Bool) (base : Nat) (text : ByteArray) :
    (fuel i : Nat) → (acc : Array (Nat × Char)) → Array (Nat × Char) × Option Nat
  | 0, _, acc => (acc, none)
  | fuel + 1, i, acc =>
    if i < text.size then
      let piece := Text.pieceAt text i
      if stop (base + i) piece.toChar then (acc, some (base + i))
      else leafUntil stop base text fuel (i + piece.size) (acc.push (base + i, piece.toChar))
    else (acc, none)

/-- The same for a list of leaves. -/
def leavesUntil (stop : Nat → Char → Bool) :
    (base : Nat) → List ByteArray → (acc : Array (Nat × Char)) →
    Array (Nat × Char) × Option Nat
  | _, [], acc => (acc, none)
  | base, text :: texts, acc =>
    match leafUntil stop base text text.size 0 acc with
    | (acc, some offset) => (acc, some offset)
    | (acc, none) => leavesUntil stop (base + text.size) texts acc

/-- The characters from an offset on that come before the first one that `stop` accepts, with
their offsets, and the offset of that one, if there is one. -/
def charsUntil (r : Rope) (stop : Nat → Char → Bool) (pos : Nat) :
    Array (Nat × Char) × Option Nat :=
  if r.size ≤ pos then (#[], none)
  else leavesUntil stop pos (r.splitAt pos).2.leaves #[]

end Rope

end CodeViewer
