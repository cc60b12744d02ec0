import CodeViewer.Proofs.Buffer.Characters
import CodeViewer.Proofs.Widget.Drawing

/-!
# A buffer and its text in one piece

Lines, columns, offsets and occurrences are defined for a text that is read as a whole. A buffer
answers as this text does, wherever its leaves start, unless one starts inside a character or inside
an occurrence of what is counted: a character that is cut counts as one for each of its bytes, and
an occurrence that is cut is not counted.
-/

namespace CodeViewer

/-! ### Lines and columns of a text -/

namespace Text

/-- A line of a text with its delimiter. Lines before the first are read as the first. -/
def lineAt (text : ByteArray) (line : Int) : Except Fault (List (Nat × Piece)) :=
  match (pieceLines text)[line.toNat]? with
  | some ps => .ok ps
  | none => .error .missingLine

/-- The number of characters of a line, without its delimiter. -/
def charsInLine (text : ByteArray) (line : Int) : Except Fault Nat := do
  let ps ← lineAt text line
  return (withoutDelimiter ps).length

/-- The offset of a column of a line; past the last character it is that of the delimiter, or of the
end of the text. -/
def offsetOf (text : ByteArray) (line col : Int) : Except Fault Nat := do
  let ps ← lineAt text line
  return (ps[min col.toNat (withoutDelimiter ps).length]?).elim text.size Prod.fst

/-- The line and column reached behind the characters that start before an offset. -/
def positionOf (text : ByteArray) (pos : Int) : Nat × Nat :=
  (((pieces text).toList.takeWhile (fun p ↦ (p.1 : Int) < pos)).map (·.2.toChar)).foldl
    Buffer.advancePosition (0, 0)

/-- The number of occurrences of a sequence between two positions. -/
def count (text : ByteArray) (startLine startCol endLine endCol : Int) (seq : ByteArray) :
    Except Fault Nat := do
  let start ← offsetOf text startLine startCol
  let stop ← offsetOf text endLine endCol
  if stop < start then
    throw .outOfRange
  else
    return Rope.occurrences (byteList seq) (byteList (text.extract start stop))

end Text

namespace Buffer

open Text (Piece Laid Boundary byteList linesOf lineOffset feedByte feedPiece pieceLines
  withoutDelimiter)
open Rope (leafwise leafStarts accepts)

/-- No leaf of a buffer starts inside a character of its text. -/
def KeepsCharacters (contents : ByteArray) : Prop :=
  ∀ k ∈ leafStarts 0 (Rope.ofBytes contents).leaves, Boundary contents k

variable {contents : ByteArray}

/-! ### Delimiters -/

private theorem isLineFeed_eq {p : Nat × Piece} (hlt : p.1 < contents.size)
    (hp : p.2 = Text.pieceAt contents p.1) : (ofBytes contents).isLineFeed p.1 = feedPiece p := by
  have hbyte := (Rope.ofBytes_holds contents).byteAt hlt
  rw [Text.getElem?_byteList hlt, Option.some.injEq] at hbyte
  have hfeed := Text.byteAt_eq_iff (c := '\n') (by decide) hlt
  rw [isLineFeed, size_ofBytes, decide_eq_true hlt, Bool.true_and, Bool.eq_iff_iff, feedPiece,
    beq_iff_eq, beq_iff_eq, hp, ← hfeed]
  exact ⟨fun h ↦ hbyte.trans h, fun h ↦ hbyte.symm.trans h⟩

private theorem accepts_isDelimiter {i : Nat} {p : Nat × Piece} {ps : List (Nat × Piece)}
    (h : Laid contents i (p :: ps) contents.size) :
    accepts (ofBytes contents).isDelimiter p =
      (feedPiece p || (p.2 == .char '\r' && ps.head?.any feedPiece)) := by
  obtain ⟨rfl, hlt, hp, hrest⟩ := h
  have hreturn : (p.2.toChar == '\r') = (p.2 == .char '\r') := by
    rw [Bool.eq_iff_iff, beq_iff_eq, beq_iff_eq]
    exact Text.Piece.toChar_eq_iff (by decide)
  rw [accepts, isDelimiter, ← Text.feedPiece_eq, hreturn]
  congr 1
  by_cases hcr : p.2 = .char '\r'
  · have hone : p.2.size = 1 := by rw [hcr]; rfl
    rw [hone] at hrest
    congr 1
    cases ps with
    | nil =>
      have hend : p.1 + 1 = contents.size := hrest
      simp [isLineFeed, hend]
    | cons q qs =>
      obtain ⟨hq, hlt', hq', -⟩ := hrest
      rw [List.head?_cons, Option.any_some, ← hq]
      exact isLineFeed_eq (hq ▸ hlt') (hq ▸ hq')
  · rw [beq_eq_false_iff_ne.mpr hcr, Bool.false_and, Bool.false_and]

private theorem withoutDelimiter_cons {p : Nat × Piece} {ps : List (Nat × Piece)}
    (hfeed : feedPiece p = false) (hreturn : p.2 = .char '\r' → ps.head?.any feedPiece = false) :
    withoutDelimiter (p :: ps) = p :: withoutDelimiter ps := by
  cases ps with
  | nil => simp [withoutDelimiter, hfeed]
  | cons q qs =>
    cases qs with
    | nil =>
      by_cases hq : feedPiece q
      · have hp : (p.2 == .char '\r') = false := by
          rw [beq_eq_false_iff_ne]
          intro hcr
          have hno := hreturn hcr
          simp [hq] at hno
        simp [withoutDelimiter, hq, hp]
      · simp [withoutDelimiter, hq]
    | cons r rs =>
      have hlast : (p :: q :: r :: rs).getLast? = (q :: r :: rs).getLast? :=
        List.getLast?_cons_cons
      have hlast' : (p :: (q :: r :: rs).dropLast).getLast? = (q :: r :: rs).dropLast.getLast? := by
        rw [List.dropLast_cons_cons, List.getLast?_cons_cons]
      unfold withoutDelimiter
      rw [hlast, List.dropLast_cons_cons]
      simp only [hlast']
      split
      · split
        · rw [List.dropLast_cons_cons, List.dropLast_cons_cons]
        · rfl
      · rfl

private theorem eq_nil_of_feed {p : Nat × Piece} {ps : List (Nat × Piece)}
    (hrow : ∀ q ∈ (p :: ps).dropLast, feedPiece q = false) (hfeed : feedPiece p = true) :
    ps = [] := by
  cases ps with
  | nil => rfl
  | cons q qs =>
    rw [hrow p (by rw [List.dropLast_cons_cons]; exact List.mem_cons_self)] at hfeed
    cases hfeed

private theorem takeWhile_delimiter {i : Nat} {ps rest : List (Nat × Piece)}
    (h : Laid contents i (ps ++ rest) contents.size)
    (hrow : ∀ p ∈ ps.dropLast, feedPiece p = false)
    (hend : ps.getLast?.any feedPiece = true ∨ rest = []) :
    (ps ++ rest).takeWhile (!accepts (ofBytes contents).isDelimiter ·) = withoutDelimiter ps := by
  induction ps generalizing i with
  | nil =>
    obtain rfl : rest = [] := by simpa using hend
    rfl
  | cons p ps ih =>
    rw [List.cons_append] at h
    have haccepts := accepts_isDelimiter h
    have hlater : Laid contents (i + p.2.size) (ps ++ rest) contents.size := h.2.2.2
    rw [List.cons_append, List.takeWhile_cons, haccepts]
    by_cases hfeed : feedPiece p
    · obtain rfl := eq_nil_of_feed hrow hfeed
      simp [hfeed, withoutDelimiter]
    · rw [Bool.not_eq_true] at hfeed
      have hrow' : ∀ q ∈ ps.dropLast, feedPiece q = false := by
        cases ps with
        | nil => exact fun q hq ↦ nomatch hq
        | cons q qs => exact fun r hr ↦ hrow r (List.mem_cons_of_mem _ hr)
      have hend' : ps.getLast?.any feedPiece = true ∨ rest = [] := by
        cases ps with
        | nil => simpa [hfeed] using hend
        | cons q qs => rwa [List.getLast?_cons_cons] at hend
      have hhead : (ps ++ rest).head?.any feedPiece = ps.head?.any feedPiece := by
        cases ps with
        | nil =>
          obtain rfl : rest = [] := by simpa using hend'
          rfl
        | cons q qs => rfl
      rw [hhead, hfeed, Bool.false_or]
      by_cases hcr : p.2 = .char '\r' ∧ ps.head?.any feedPiece = true
      · obtain ⟨hp, hnext⟩ := hcr
        cases ps with
        | nil => cases hnext
        | cons q qs =>
          have hq : feedPiece q = true := hnext
          obtain rfl := eq_nil_of_feed hrow' hq
          simp [hp, hq, withoutDelimiter]
      · have hno : (p.2 == .char '\r' && ps.head?.any feedPiece) = false := by
          simpa using hcr
        rw [hno, ih hlater hrow' hend', withoutDelimiter_cons hfeed (by simpa using hcr)]
        rfl

/-! ### Lines -/

/-- A search finds the first element behind those that it passes over. -/
theorem find?_eq_getElem? {α : Type} (p : α → Bool) (as : List α) :
    as.find? p = as[(as.takeWhile (!p ·)).length]? := by
  induction as with
  | nil => rfl
  | cons a as ih => by_cases h : p a <;> simp [h, ih]

private theorem length_withoutDelimiter_lt {ps : List (Nat × Piece)}
    (h : ps.getLast?.any feedPiece = true) : (withoutDelimiter ps).length < ps.length := by
  have hpos : 0 < ps.length := by
    cases ps with
    | nil => cases h
    | cons p ps => exact Nat.succ_pos _
  unfold withoutDelimiter
  rw [if_pos h]
  simp only
  split
  · simp only [List.length_dropLast]
    omega
  · simp only [List.length_dropLast]
    omega

private theorem laid_line {n : Nat} {ps : List (Nat × Piece)}
    (hline : (pieceLines contents)[n]? = some ps) :
    Laid contents (lineOffset feedByte (byteList contents) n)
        (ps ++ ((pieceLines contents).drop (n + 1)).flatten) contents.size ∧
      (ps.getLast?.any feedPiece = true ∨ ((pieceLines contents).drop (n + 1)).flatten = []) := by
  obtain ⟨-, hlaid⟩ := Text.laid_lines contents n
  obtain ⟨hn, hget⟩ := List.getElem?_eq_some_iff.mp hline
  rw [List.drop_eq_getElem_cons hn, hget, List.flatten_cons] at hlaid
  refine ⟨hlaid, ?_⟩
  by_cases hlast : n + 1 < (pieceLines contents).length
  · have hmem : ps ∈ (pieceLines contents).dropLast := by
      refine List.mem_of_getElem? (i := n) ?_
      rw [List.getElem?_dropLast, if_pos (Nat.lt_sub_of_add_lt hlast)]
      exact hline
    exact .inl (Text.getLast?_of_mem_dropLast feedPiece hmem)
  · exact .inr (by rw [List.drop_of_length_le (Nat.not_lt.mp hlast), List.flatten_nil])

private theorem charsUntil_delimiter (hwhole : KeepsCharacters contents) {n : Nat}
    {ps : List (Nat × Piece)} (hline : (pieceLines contents)[n]? = some ps) :
    ((ofBytes contents).rope.charsUntil (ofBytes contents).isDelimiter
        (lineOffset feedByte (byteList contents) n)).1.toList =
        (withoutDelimiter ps).map (fun p ↦ (p.1, p.2.toChar)) ∧
      ((ofBytes contents).rope.charsUntil (ofBytes contents).isDelimiter
        (lineOffset feedByte (byteList contents) n)).2 =
        (ps[(withoutDelimiter ps).length]?).map Prod.fst := by
  have hstart := (Text.laid_lines contents n).1
  obtain ⟨hlaid, hend⟩ := laid_line hline
  have hrow : ∀ p ∈ ps.dropLast, feedPiece p = false := fun p hp ↦ by
    simpa using Text.not_ends_of_mem_dropLast (List.mem_of_getElem? hline) hp
  have htake := takeWhile_delimiter hlaid hrow hend
  have hholds : (ofBytes contents).rope.Holds (byteList contents) := Rope.ofBytes_holds contents
  obtain ⟨hchars, hstop⟩ := hholds.charsUntil (ofBytes contents).isDelimiter
    (lineOffset feedByte (byteList contents) n)
  have hread : leafwise (lineOffset feedByte (byteList contents) n)
      ((ofBytes contents).rope.splitAt (lineOffset feedByte (byteList contents) n)).2.leaves =
        ps ++ ((pieceLines contents).drop (n + 1)).flatten :=
    (Rope.laid_leafwise_splitAt hstart hwhole).eq hlaid
  rw [hread] at hchars hstop
  refine ⟨hchars.trans (by rw [htake]), hstop.trans ?_⟩
  rw [find?_eq_getElem?, htake]
  congr 1
  rcases hend with hlast | hrest
  · exact List.getElem?_append_left (length_withoutDelimiter_lt hlast)
  · rw [hrest, List.append_nil]

private theorem lineAt_cases (contents : ByteArray) (line : Int) :
    (Text.lineAt contents line = .error .missingLine ∧
        (ofBytes contents).lineStart line = .error .missingLine) ∨
      ∃ ps, (pieceLines contents)[line.toNat]? = some ps ∧ Text.lineAt contents line = .ok ps ∧
        (ofBytes contents).lineStart line =
          .ok (lineOffset feedByte (byteList contents) line.toNat) := by
  rw [← lineStart_toNat]
  cases h : (pieceLines contents)[line.toNat]? with
  | none =>
    refine .inl ⟨by rw [Text.lineAt, h], ?_⟩
    exact lineStart_eq_error (List.getElem?_eq_none_iff.mp h)
  | some ps =>
    refine .inr ⟨ps, rfl, by rw [Text.lineAt, h], ?_⟩
    exact lineStart_ofBytes (List.getElem?_eq_some_iff.mp h).1

/-- The characters of a line are counted as in the text in one piece. -/
theorem charsInLine_eq (hwhole : KeepsCharacters contents) (line : Int) :
    (ofBytes contents).charsInLine line = Text.charsInLine contents line := by
  rw [charsInLine, Text.charsInLine]
  obtain ⟨htext, hbuffer⟩ | ⟨ps, hline, htext, hbuffer⟩ := lineAt_cases contents line
  · rw [htext, hbuffer]
    rfl
  · obtain ⟨hchars, -⟩ := charsUntil_delimiter hwhole hline
    rw [htext, hbuffer]
    change Except.ok _ = Except.ok _
    rw [← Array.length_toList, hchars, List.length_map]

/-- A column has the offset it has in the text in one piece. -/
theorem offsetOf_eq (hwhole : KeepsCharacters contents) (line col : Int) :
    (ofBytes contents).offsetOf line col = Text.offsetOf contents line col := by
  rw [offsetOf, Text.offsetOf]
  obtain ⟨htext, hbuffer⟩ | ⟨ps, hline, htext, hbuffer⟩ := lineAt_cases contents line
  · rw [htext, hbuffer]
    rfl
  · obtain ⟨hchars, hstop⟩ := charsUntil_delimiter hwhole hline
    rw [htext, hbuffer]
    simp only [bind, Except.bind, pure, Except.pure]
    split
    · next hcol =>
      -- The first column is the start of the line, even where nothing is left to read.
      obtain ⟨hlaid, hend⟩ := laid_line hline
      rw [Int.toNat_of_nonpos hcol, Nat.zero_min]
      congr 1
      cases ps with
      | nil =>
        obtain hrest := hend.resolve_left (by simp)
        rw [hrest] at hlaid
        exact hlaid
      | cons p ps => exact hlaid.1.symm
    · next hcol =>
      have hget : ((ofBytes contents).rope.charsUntil (ofBytes contents).isDelimiter
          (lineOffset feedByte (byteList contents) line.toNat)).1[col.toNat]? =
            ((withoutDelimiter ps)[col.toNat]?).map (fun p ↦ (p.1, p.2.toChar)) := by
        rw [← Array.getElem?_toList, hchars, List.getElem?_map]
      rw [hget, hstop]
      by_cases hlt : col.toNat < (withoutDelimiter ps).length
      · have hps := (Text.withoutDelimiter_prefix ps).getElem hlt
        have hlen := (Text.withoutDelimiter_prefix ps).length_le
        rw [List.getElem?_eq_getElem hlt, Nat.min_eq_left (Nat.le_of_lt hlt),
          List.getElem?_eq_getElem (Nat.lt_of_lt_of_le hlt hlen), ← hps]
        rfl
      · rw [List.getElem?_eq_none (Nat.not_lt.mp hlt), Nat.min_eq_right (Nat.not_lt.mp hlt)]
        cases ps[(withoutDelimiter ps).length]? <;> simp

/-- A line has as many characters as are drawn of it. -/
theorem charsInLine_eq_length {cv : CodeView} (hbuffer : cv.buffer = ofBytes contents)
    (hwhole : KeepsCharacters contents) (line : Int) :
    (ofBytes contents).charsInLine line = (cv.lineChars line).map List.length := by
  rw [charsInLine_eq hwhole, Text.charsInLine]
  obtain ⟨htext, hmissing⟩ | ⟨ps, hline, htext, -⟩ := lineAt_cases contents line
  · rw [htext, CodeView.lineChars, hbuffer, Buffer.line, hmissing]
    rfl
  · have hsame : cv.lineChars line = cv.lineChars line.toNat := by
      simp only [CodeView.lineChars, Buffer.line, lineStart_toNat]
    rw [htext, hsame, CodeView.lineChars_eq hbuffer hline]
    change Except.ok _ = Except.ok _
    rw [List.length_map]

/-! ### Offsets and occurrences -/

/-- An offset has the line and column it has in the text in one piece. -/
theorem positionOf_eq (hwhole : KeepsCharacters contents) (pos : Int) :
    (ofBytes contents).positionOf pos = Text.positionOf contents pos := by
  rw [positionOf, Text.positionOf]
  split
  · next hle =>
    have hnone : (Text.pieces contents).toList.takeWhile (fun p ↦ decide ((p.1 : Int) < pos)) =
        [] := by
      rw [List.takeWhile_eq_nil_iff]
      intro _
      simpa using Int.le_trans hle (Int.natCast_nonneg _)
    rw [hnone]
    rfl
  · next hpos =>
    have hholds : (ofBytes contents).rope.Holds (byteList contents) := Rope.ofBytes_holds contents
    obtain ⟨hchars, -⟩ := hholds.charsUntil (fun offset _ ↦ pos.toNat ≤ offset) 0
    have hread : leafwise 0 ((ofBytes contents).rope.splitAt 0).2.leaves =
        (Text.pieces contents).toList :=
      (Rope.laid_leafwise_splitAt .start hwhole).eq (Text.pieces_laid contents)
    have hfront : (fun p : Nat × Piece ↦ !accepts (fun offset _ ↦ pos.toNat ≤ offset) p) =
        fun p ↦ decide ((p.1 : Int) < pos) := by
      funext p
      rw [accepts, ← decide_not, decide_eq_decide]
      omega
    rw [hread, hfront] at hchars
    rw [← Array.foldl_toList, hchars, List.foldl_map, List.foldl_map]

/-- The occurrences between two positions are counted as in the text in one piece, if no leaf
starts inside one of them. -/
theorem count_eq (hwhole : KeepsCharacters contents) {startLine startCol stopLine stopCol : Int}
    {seq : ByteArray} (hseq : seq.size ≠ 0)
    (hkeeps : ∀ start stop, Text.offsetOf contents startLine startCol = .ok start →
      Text.offsetOf contents stopLine stopCol = .ok stop →
        Rope.KeepsOccurrences contents seq start stop) :
    (ofBytes contents).count startLine startCol stopLine stopCol seq =
      Text.count contents startLine startCol stopLine stopCol seq := by
  rw [count, Text.count, offsetOf_eq hwhole, offsetOf_eq hwhole]
  cases hstart : Text.offsetOf contents startLine startCol with
  | error e => rfl
  | ok start =>
    cases hstop : Text.offsetOf contents stopLine stopCol with
    | error e => rfl
    | ok stop =>
      simp only [bind, Except.bind]
      split
      · rfl
      · next hle =>
        have hcount := Rope.count_ofBytes hseq (Nat.not_lt.mp hle) (hkeeps start stop hstart hstop)
        exact congrArg Except.ok hcount

/-- A buffer none of whose leaves starts inside a character or inside an occurrence of what is
counted answers as its text in one piece: its lines have the characters that are drawn of them,
columns have their offsets and offsets their columns, and occurrences are counted. -/
theorem answers_as_one_piece (contents : ByteArray) (hwhole : KeepsCharacters contents) :
    (∀ line, (ofBytes contents).charsInLine line = Text.charsInLine contents line) ∧
    (∀ cv : CodeView, cv.buffer = ofBytes contents → ∀ line,
      (ofBytes contents).charsInLine line = (cv.lineChars line).map List.length) ∧
    (∀ line col, (ofBytes contents).offsetOf line col = Text.offsetOf contents line col) ∧
    (∀ pos, (ofBytes contents).positionOf pos = Text.positionOf contents pos) ∧
    ∀ startLine startCol stopLine stopCol seq, seq.size ≠ 0 →
      (∀ start stop, Text.offsetOf contents startLine startCol = .ok start →
        Text.offsetOf contents stopLine stopCol = .ok stop →
          Rope.KeepsOccurrences contents seq start stop) →
      (ofBytes contents).count startLine startCol stopLine stopCol seq =
        Text.count contents startLine startCol stopLine stopCol seq :=
  ⟨charsInLine_eq hwhole, fun _ hbuffer ↦ charsInLine_eq_length hbuffer hwhole,
    offsetOf_eq hwhole, positionOf_eq hwhole, fun _ _ _ _ _ ↦ count_eq hwhole⟩

/-- A text of ASCII characters is cut nowhere inside one. -/
theorem keepsCharacters_of_ascii (h : ∀ b ∈ byteList contents, b < 0x80) :
    KeepsCharacters contents := by
  intro k hk
  have hbytes : (Rope.ofBytes contents).leaves.flatMap byteList = byteList contents :=
    (Rope.ofBytes_holds contents).bytes
  have hle := Rope.le_of_mem_leafStarts hk
  rw [hbytes, Nat.zero_add, Text.length_byteList] at hle
  refine Boundary.start.of_ones (Nat.zero_le k) hle fun j _ hlt ↦ ?_
  have hj : j < contents.size := Nat.lt_of_lt_of_le hlt hle
  exact Text.size_pieceAt_of_ascii hj (h _ (List.mem_of_getElem? (Text.getElem?_byteList hj)))

/-- A line of more bytes than a leaf holds. -/
def longLine : ByteArray := (List.replicate 16386 0x61).toByteArray

/-- Characters of a long line are counted although leaves cut it. -/
theorem answers_as_one_piece_longLine :
    KeepsCharacters longLine ∧ ByteArray.size ⟨#[0x61]⟩ ≠ 0 ∧
      (∀ start stop, Rope.KeepsOccurrences longLine ⟨#[0x61]⟩ start stop) ∧
      (ofBytes longLine).count 0 0 0 16386 ⟨#[0x61]⟩ =
        Text.count longLine 0 0 0 16386 ⟨#[0x61]⟩ := by
  have hbytes : byteList longLine = List.replicate 16386 0x61 := Text.byteList_toByteArray _
  have hwhole : KeepsCharacters longLine := by
    refine keepsCharacters_of_ascii fun b hb ↦ ?_
    rw [hbytes] at hb
    obtain ⟨-, rfl⟩ := List.mem_replicate.mp hb
    decide
  have hkeeps (start stop : Nat) : Rope.KeepsOccurrences longLine ⟨#[0x61]⟩ start stop :=
    fun k _ i _ hik hki ↦ absurd hki (Nat.not_lt.mpr hik)
  have hseq : ByteArray.size ⟨#[0x61]⟩ ≠ 0 := Nat.one_ne_zero
  obtain ⟨-, -, -, -, hcount⟩ := answers_as_one_piece longLine hwhole
  exact ⟨hwhole, hseq, hkeeps, hcount 0 0 0 16386 _ hseq fun start stop _ _ ↦ hkeeps start stop⟩

/-! ### A character that is cut -/

private theorem charsInLine_oneLine (h : 0x0a ∉ byteList contents) :
    Text.charsInLine contents 0 = .ok (Text.pieces contents).toList.length := by
  have hno : ∀ p ∈ (Text.pieces contents).toList, ¬ feedPiece p := by
    intro p hp hfeed
    obtain ⟨-, -, hlt, hpiece⟩ := (Text.pieces_laid contents).mem hp
    have hbyte := (Text.byteAt_eq_iff (c := '\n') (by decide) hlt).mpr
      (hpiece.symm.trans (eq_of_beq hfeed))
    have hget := Text.getElem?_byteList hlt
    rw [hbyte] at hget
    exact h (List.mem_of_getElem? hget)
  have hlines : pieceLines contents = [(Text.pieces contents).toList] := by
    have happend := Text.linesOf_append feedPiece hno []
    rwa [List.append_nil, linesOf, List.modifyHead_cons, List.append_nil] at happend
  have hlast : (Text.pieces contents).toList.getLast?.any feedPiece = false := by
    rw [Option.any_eq_false]
    intro p hp
    exact Bool.eq_false_iff.mpr (hno p (List.mem_of_getLast? hp))
  rw [Text.charsInLine, Text.lineAt, hlines, Int.toNat_zero]
  change Except.ok _ = Except.ok _
  rw [withoutDelimiter, hlast]
  rfl

private theorem charsInLine_leafwise (h : 0x0a ∉ byteList contents) :
    (ofBytes contents).charsInLine 0 =
      .ok (leafwise 0 ((Rope.ofBytes contents).splitAt 0).2.leaves).length := by
  have hholds : (ofBytes contents).rope.Holds (byteList contents) := Rope.ofBytes_holds contents
  have hcount : (byteList contents).countP feedByte = 0 := by
    rw [List.countP_eq_zero]
    intro b hb hfeed
    exact h (eq_of_beq hfeed ▸ hb)
  have hno : ∀ p ∈ leafwise 0 ((ofBytes contents).rope.splitAt 0).2.leaves,
      (!accepts (ofBytes contents).isDelimiter p) = true := by
    have hfeeds := Rope.countP_feedPiece_leafwise 0 ((ofBytes contents).rope.splitAt 0).2.leaves
    have hbytes : ((ofBytes contents).rope.splitAt 0).2.leaves.flatMap byteList =
        byteList contents := (hholds.splitAt 0).2.bytes
    rw [hbytes, hcount, List.countP_eq_zero] at hfeeds
    have hbyte (i : Nat) : (ofBytes contents).isLineFeed i = false := by
      rw [isLineFeed, size_ofBytes, Bool.and_eq_false_imp]
      intro hi
      have hget := hholds.byteAt (of_decide_eq_true hi)
      rw [beq_eq_false_iff_ne]
      intro hfeed
      exact h (hfeed ▸ List.mem_of_getElem? hget)
    intro p hp
    have hfeed : (p.2.toChar == '\n') = false := by
      rw [← Text.feedPiece_eq]
      exact Bool.eq_false_iff.mpr (hfeeds p hp)
    rw [accepts, isDelimiter, hfeed, hbyte, Bool.and_false]
    rfl
  have hstart : (ofBytes contents).lineStart 0 = .ok 0 :=
    lineStart_ofBytes (List.length_pos_iff.mpr (Text.linesOf_ne_nil _ _))
  obtain ⟨hchars, -⟩ := hholds.charsUntil (ofBytes contents).isDelimiter 0
  rw [charsInLine, hstart]
  change Except.ok _ = Except.ok _
  rw [← Array.length_toList, hchars, List.takeWhile_eq_self_iff.mpr hno, List.length_map]
  rfl

/-- A line that is halved inside a character. -/
def cutLine (n : Nat) : ByteArray :=
  (List.replicate n 0x61 ++ (String.utf8EncodeChar 'é' ++ List.replicate n 0x61)).toByteArray

variable {n : Nat}

private theorem byteList_cutLine : byteList (cutLine n) =
    List.replicate n 0x61 ++ ([0xc3, 0xa9] ++ List.replicate n 0x61) :=
  Text.byteList_toByteArray _

private theorem size_cutLine : (cutLine n).size = n + (2 + n) := by
  rw [← Text.length_byteList, byteList_cutLine, List.length_append, List.length_append,
    List.length_replicate]
  rfl

private theorem getElem?_cutLine {i : Nat} (hi : i < n + (2 + n)) (h : i < n ∨ n + 2 ≤ i) :
    (byteList (cutLine n))[i]? = some 0x61 := by
  rw [byteList_cutLine]
  rcases h with h | h
  · rw [List.getElem?_append_left (by rwa [List.length_replicate]), List.getElem?_replicate_of_lt h]
  · rw [List.getElem?_append_right (by rw [List.length_replicate]; omega), List.length_replicate,
      List.getElem?_append_right (by rw [List.length_cons, List.length_singleton]; omega),
      List.getElem?_replicate_of_lt (by rw [List.length_cons, List.length_singleton]; omega)]

private theorem size_pieceAt_letter {text : ByteArray} {i j : Nat} (hj : j < n + (2 + n))
    (h : j < n ∨ n + 2 ≤ j) (hpart : (byteList text)[i]? = (byteList (cutLine n))[j]?) :
    (Text.pieceAt text i).size = 1 := by
  rw [getElem?_cutLine hj h] at hpart
  have hi : i < text.size := (List.getElem?_eq_some_iff.mp hpart).1
  rw [Text.getElem?_byteList hi, Option.some.injEq] at hpart
  refine Text.size_pieceAt_of_ascii hi ?_
  rw [hpart]
  decide

private theorem length_pieces_left :
    (Text.pieces ((cutLine n).extract 0 (n + 1))).toList.length = n + 1 := by
  have hsize : ((cutLine n).extract 0 (n + 1)).size = n + 1 := by
    rw [ByteArray.size_extract, size_cutLine]
    omega
  rw [(Text.pieces_laid _).length_of_ones, hsize, Nat.sub_zero]
  intro j _ hj
  by_cases hletter : j < n
  · refine size_pieceAt_letter (by omega) (.inl hletter) ?_
    rw [Text.byteList_extract, List.drop_zero, List.getElem?_take_of_lt (by omega)]
  · have hfits := Text.pieceAt_fits _ j hj
    have hpos := (Text.pieceAt ((cutLine n).extract 0 (n + 1)) j).size_pos
    omega

private theorem length_pieces_right :
    (Text.pieces ((cutLine n).extract (n + 1) (n + (2 + n)))).toList.length = n + 1 := by
  have hsize : ((cutLine n).extract (n + 1) (n + (2 + n))).size = n + 1 := by
    rw [ByteArray.size_extract, size_cutLine]
    omega
  have hget {j : Nat} (hj : j < n + 1) :
      (byteList ((cutLine n).extract (n + 1) (n + (2 + n))))[j]? =
        (byteList (cutLine n))[n + 1 + j]? := by
    rw [Text.byteList_extract, List.getElem?_take_of_lt (by omega), List.getElem?_drop]
  rw [(Text.pieces_laid _).length_of_ones, hsize, Nat.sub_zero]
  intro j _ hj
  cases j with
  | zero =>
    refine Text.size_pieceAt_of_not_first hj ?_
    have hbyte := hget (Nat.succ_pos n)
    rw [Text.getElem?_byteList hj, byteList_cutLine,
      List.getElem?_append_right (by rw [List.length_replicate]; omega), List.length_replicate,
      Nat.add_zero, Nat.add_sub_cancel_left] at hbyte
    rw [Option.some.inj hbyte]
    decide
  | succ j => exact size_pieceAt_letter (by omega) (.inr (by omega)) (hget (hsize ▸ hj))

private theorem length_pieces_cutLine : (Text.pieces (cutLine n)).toList.length = 2 * n + 1 := by
  have hones {j : Nat} (hj : j < (cutLine n).size) (h : j < n ∨ n + 2 ≤ j) :
      (Text.pieceAt (cutLine n) j).size = 1 := size_pieceAt_letter (size_cutLine ▸ hj) h rfl
  have hread : Text.pieceAt (cutLine n) n = .char 'é' := by
    have hdecode : (cutLine n).utf8DecodeChar? n = some 'é' :=
      Text.decode_eq_some_iff.mpr ⟨List.replicate n 0x61, by
        rw [byteList_cutLine, List.drop_left' List.length_replicate]
        rfl⟩
    rw [Text.pieceAt, hdecode]
  have hlt : n < (cutLine n).size := by
    rw [size_cutLine]
    omega
  have hfrom : Boundary (cutLine n) n := Boundary.start.of_ones (Nat.zero_le _) (Nat.le_of_lt hlt)
    fun j _ hj ↦ hones (Nat.lt_trans hj hlt) (.inl hj)
  have hto : Boundary (cutLine n) (n + 2) := by
    have hnext := hfrom.next hlt
    rwa [hread] at hnext
  obtain ⟨before, rest, hsplit, hbefore, hrest⟩ := (Text.pieces_laid (cutLine n)).split hfrom
    (Nat.zero_le _) hfrom.le_size .start
  obtain ⟨middle, after, rfl, hmiddle, hafter⟩ := hrest.split hto (Nat.le_add_right _ _)
    hto.le_size hfrom
  have hone : middle = [(n, .char 'é')] := hmiddle.eq ⟨rfl, hlt, hread.symm, rfl⟩
  have hfront := hbefore.length_of_ones fun j _ hj ↦ hones (Nat.lt_trans hj hlt) (.inl hj)
  have hback := hafter.length_of_ones fun j hj hlt ↦ hones hlt (.inr hj)
  rw [size_cutLine] at hback
  rw [hsplit, hone, List.length_append, List.length_append, hfront, hback, List.length_singleton]
  omega

/-- A character that is cut counts as one for each of its bytes. -/
theorem charsInLine_cutLine (hlarge : 8192 ≤ n) (hsmall : n < 16383) :
    (ofBytes (cutLine n)).charsInLine 0 = .ok (2 * n + 2) ∧
      Text.charsInLine (cutLine n) 0 = .ok (2 * n + 1) := by
  have hno : (0x0a : UInt8) ∉ byteList (cutLine n) := by
    rw [byteList_cutLine]
    simp [List.mem_replicate]
  have hmiddle : (n + (2 + n)) / 2 = n + 1 := by omega
  have hleft : ((cutLine n).extract 0 (n + 1)).size = n + 1 := by
    rw [ByteArray.size_extract, size_cutLine]
    omega
  have hrope : Rope.ofBytes (cutLine n) = .node (n + (2 + n))
      (.leaf ((cutLine n).extract 0 (n + 1)))
      (.leaf ((cutLine n).extract (n + 1) (n + (2 + n)))) := by
    have hnode : Rope.ofBytes (cutLine n) = _ :=
      Rope.ofBytes_eq_node (by rw [size_cutLine, Rope.splitLength]; omega)
        (by rw [size_cutLine, Rope.splitLength]; omega)
    rwa [size_cutLine, hmiddle] at hnode
  have hleaves : ((Rope.ofBytes (cutLine n)).splitAt 0).2.leaves =
      [(cutLine n).extract 0 (n + 1), (cutLine n).extract (n + 1) (n + (2 + n))] := by
    have hright : ((cutLine n).extract (n + 1) (n + (2 + n))).size = n + 1 := by
      rw [ByteArray.size_extract, size_cutLine]
      omega
    have hsize : (Rope.leaf ((cutLine n).extract 0 (n + 1))).size = n + 1 := hleft
    have hsize' : (Rope.leaf ((cutLine n).extract (n + 1) (n + (2 + n)))).size = n + 1 := hright
    have hleaf : Rope.ofBytes ((cutLine n).extract 0 (n + 1)) = .leaf _ :=
      Rope.ofBytes_eq_leaf (by rw [hleft, Rope.splitLength]; omega)
    rw [hrope, Rope.splitAt, hsize, if_neg (by omega), if_pos (by omega), Rope.splitAt,
      ByteArray.extract_zero_size, hleaf]
    simp only
    rw [Rope.join, hsize, hsize', if_neg (by rw [Rope.joinLength]; omega)]
    rfl
  have hlength : (leafwise 0 ((Rope.ofBytes (cutLine n)).splitAt 0).2.leaves).length =
      2 * n + 2 := by
    rw [hleaves, leafwise, leafwise, leafwise, List.append_nil, List.length_append, List.length_map,
      List.length_map, length_pieces_left, length_pieces_right]
    omega
  rw [charsInLine_leafwise hno, charsInLine_oneLine hno, hlength, length_pieces_cutLine]
  exact ⟨rfl, rfl⟩

/-- A line that is halved inside a character has more characters than are drawn of it. -/
theorem charsInLine_ne_of_cut :
    (ofBytes (cutLine 8192)).charsInLine 0 ≠ Text.charsInLine (cutLine 8192) 0 := by
  obtain ⟨hbuffer, htext⟩ := charsInLine_cutLine (Nat.le_refl 8192) (by decide)
  rw [hbuffer, htext]
  intro h
  cases h

end Buffer

end CodeViewer
