import CodeViewer.Text.Utf8

/-!
# File name patterns

In a file name pattern `*` stands for any bytes, `?` for one character and `[...]` for one
character of a set; none of the first two stands for a slash. A backslash takes the meaning from
the character behind it. A malformed pattern matches no name.
-/

namespace CodeViewer.Glob

/-- One item of a pattern that is not a star. -/
inductive Item where
  | byte (b : UInt8)
  | any
  | set (negated : Bool) (ranges : List (Char × Char))
  deriving DecidableEq, Repr

/-- A run of items, and whether a star stands before it. -/
structure Chunk where
  star : Bool
  items : List Item
  deriving DecidableEq, Repr

/-- A character of a set, which may be escaped. The set must go on behind it. -/
def readMember : List Char → Option (Char × List Char)
  | [] => none
  | '-' :: _ => none
  | ']' :: _ => none
  | '\\' :: c :: d :: rest => some (c, d :: rest)
  | '\\' :: _ => none
  | c :: d :: rest => some (c, d :: rest)
  | [_] => none

/-- The ranges of a set up to its closing bracket; `ranges` holds those read so far. -/
def readRanges : (fuel : Nat) → (ranges : List (Char × Char)) → List Char →
    Option (List (Char × Char) × List Char)
  | 0, _, _ => none
  | fuel + 1, ranges, text =>
    match ranges, text with
    | _ :: _, ']' :: rest => some (ranges, rest)
    | _, _ =>
      match readMember text with
      | none => none
      | some (lo, '-' :: rest) =>
        match readMember rest with
        | none => none
        | some (hi, rest) => readRanges fuel (ranges ++ [(lo, hi)]) rest
      | some (lo, rest) => readRanges fuel (ranges ++ [(lo, lo)]) rest

/-- Read a pattern. `star` and `items` describe the chunk that is being read. -/
def readChunks : (fuel : Nat) → (star : Bool) → (items : List Item) → List Char →
    Option (List Chunk)
  | 0, _, _, _ => none
  | _ + 1, star, items, [] => some (if star || !items.isEmpty then [⟨star, items⟩] else [])
  | fuel + 1, star, items, c :: rest =>
    let literal (c : Char) (rest : List Char) : Option (List Chunk) :=
      readChunks fuel star (items ++ c.toString.toUTF8.toList.map Item.byte) rest
    match c with
    | '*' =>
      if items.isEmpty then readChunks fuel true [] rest
      else (readChunks fuel true [] rest).map (⟨star, items⟩ :: ·)
    | '?' => readChunks fuel star (items ++ [.any]) rest
    | '[' =>
      let (negated, rest) : Bool × List Char :=
        match rest with
        | '^' :: rest => (true, rest)
        | _ => (false, rest)
      match readRanges (rest.length + 1) [] rest with
      | none => none
      | some (ranges, rest) => readChunks fuel star (items ++ [.set negated ranges]) rest
    | '\\' =>
      match rest with
      | [] => none
      | c :: rest => literal c rest
    | c => literal c rest

/-- The chunks of a pattern, unless it is malformed. -/
def parse? (pattern : String) : Option (List Chunk) :=
  readChunks (pattern.toList.length + 1) false [] pattern.toList

/-- The byte of a slash, which separates the parts of a path. -/
def slash : UInt8 := 0x2f

/-- Match items at an index of a name; the answer is the index behind the match. -/
def matchItems (name : ByteArray) : List Item → (i : Nat) → Option Nat
  | [], i => some i
  | item :: items, i =>
    if name.size ≤ i then none
    else
      let piece := Text.pieceAt name i
      match item with
      | .byte b => if Text.byteAt name i == b then matchItems name items (i + 1) else none
      | .any =>
        if Text.byteAt name i == slash then none else matchItems name items (i + piece.size)
      | .set negated ranges =>
        if ranges.any (fun r ↦ r.1 ≤ piece.toChar && piece.toChar ≤ r.2) != negated then
          matchItems name items (i + piece.size)
        else none

/-- Match items behind a star that starts at index `i`: at the first index that is reached
without skipping a slash and, if the items are the `last` ones, leads to the end of the name. -/
def matchAfterStar (name : ByteArray) (items : List Item) (last : Bool) :
    (fuel i : Nat) → Option Nat
  | 0, _ => none
  | fuel + 1, i =>
    match (matchItems name items i).filter (fun stop ↦ !last || stop == name.size) with
    | some stop => some stop
    | none =>
      if i < name.size && Text.byteAt name i != slash then
        matchAfterStar name items last fuel (i + 1)
      else none

/-- Match the chunks of a pattern from an index of a name to its end. -/
def matchChunks (name : ByteArray) : List Chunk → (i : Nat) → Bool
  | [], i => i == name.size
  | c :: cs, i =>
    if c.star && c.items.isEmpty then
      ((List.range' i (name.size - i)).all (Text.byteAt name · != slash))
    else if c.star then
      match matchAfterStar name c.items cs.isEmpty (name.size + 1) i with
      | none => false
      | some i => matchChunks name cs i
    else
      match matchItems name c.items i with
      | none => false
      | some i => matchChunks name cs i

/-- Whether a file name matches a pattern. -/
def isMatch (pattern name : String) : Bool :=
  match parse? pattern with
  | none => false
  | some chunks => matchChunks name.toUTF8 chunks 0

/-- The last part of a path: `.` for the empty path and `/` for one of slashes only. -/
def baseName (path : String) : String :=
  if path == "" then "."
  else
    let trimmed := path.toList.reverse.dropWhile (· == '/')
    if trimmed.isEmpty then "/"
    else String.ofList (trimmed.takeWhile (· != '/')).reverse

end CodeViewer.Glob
