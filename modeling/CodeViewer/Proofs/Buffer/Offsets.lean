import CodeViewer.Buffer.Cursor
import CodeViewer.Proofs.Buffer.Positions
import CodeViewer.Proofs.Except

/-!
# Offsets of a buffer and their places

An offset at which a buffer reads a character is turned into a place, and the place back into the
offset. A carriage return and a line feed that end a line together have one place between them, in
front of both; the offset in the middle of the two is therefore turned back into that in front. The
places between the characters of the text are such offsets wherever its leaves start.
-/

namespace CodeViewer

open Text (Piece Laid Boundary byteAt byteList linesOf lineOffset feedPiece)

/-! ### Reading behind a place between characters -/

namespace Rope

private theorem EndToEnd.exists_holding {i j k : Nat} {ps : List (Nat × Piece)}
    (h : EndToEnd i ps k)
    (hij : i ≤ j) (hjk : j < k) : ∃ p ∈ ps, p.1 ≤ j ∧ j < p.1 + p.2.size := by
  induction ps generalizing i with
  | nil =>
    obtain rfl : i = k := h
    omega
  | cons p ps ih =>
    obtain ⟨rfl, hrest⟩ := h
    rcases Nat.lt_or_ge j (p.1 + p.2.size) with hlt | hge
    · exact ⟨p, List.mem_cons_self, hij, hlt⟩
    · obtain ⟨q, hq, hholds⟩ := ih hrest hge
      exact ⟨q, List.mem_cons_of_mem _ hq, hholds⟩

private theorem exists_piece_of_leaf (base : Nat) {text : ByteArray} {i : Nat}
    (h : Boundary text i) (hi : i < text.size) : ∃ p ∈ leafwise base [text], p.1 = base + i := by
  obtain ⟨before, after, hsplit, -, hafter⟩ := (Text.pieces_laid text).split h (Nat.zero_le i)
    (Nat.le_of_lt hi) .start
  cases after with
  | nil =>
    obtain rfl : i = text.size := hafter
    exact absurd hi (Nat.lt_irrefl _)
  | cons p after =>
    obtain ⟨rfl, -, -, -⟩ := hafter
    refine ⟨(base + p.1, p.2), ?_, rfl⟩
    rw [leafwise, leafwise, List.append_nil, hsplit]
    exact List.mem_map.mpr ⟨p, List.mem_append_right _ List.mem_cons_self, rfl⟩

private theorem exists_piece_of_build (fuel base : Nat) {text : ByteArray} {i : Nat}
    (h : Boundary text i) (hi : i < text.size) :
    ∃ p ∈ leafwise base (build fuel text).leaves, p.1 = base + i := by
  induction fuel generalizing base text i with
  | zero => exact exists_piece_of_leaf base h hi
  | succ fuel ih =>
    unfold build
    split
    · exact exists_piece_of_leaf base h hi
    -- A half may start inside a character, but no place between characters is lost by that.
    · have hmiddle : text.size / 2 ≤ text.size := Nat.div_le_self _ _
      have hlength : (((build fuel (text.extract 0 (text.size / 2))).leaves).flatMap
          byteList).length = text.size / 2 := by
        have hbytes := (build_holds fuel (text.extract 0 (text.size / 2))).bytes
        rw [bytes] at hbytes
        rw [hbytes, Text.length_byteList, ByteArray.size_extract]
        omega
      rw [leaves, leafwise_append, hlength]
      rcases Nat.lt_or_ge i (text.size / 2) with hlt | hge
      · have hsize : i < (text.extract 0 (text.size / 2)).size := by
          rw [ByteArray.size_extract]
          omega
        obtain ⟨p, hp, hat⟩ := ih base (h.extract_front (Nat.le_of_lt hlt) hmiddle) hsize
        exact ⟨p, List.mem_append_left _ hp, hat⟩
      · have hsize : i - text.size / 2 < (text.extract (text.size / 2) text.size).size := by
          rw [ByteArray.size_extract]
          omega
        obtain ⟨p, hp, hat⟩ := ih (base + text.size / 2) (h.extract_back hge) hsize
        exact ⟨p, List.mem_append_right _ hp, by omega⟩

end Rope

namespace Buffer

open Rope (leafwise accepts EndToEnd)

variable {contents : ByteArray} {pos line : Nat}

/-- A buffer reads a character at an offset, or its text ends there. -/
def ReadsAt (contents : ByteArray) (pos : Nat) : Prop :=
  pos = contents.size ∨ ∃ p ∈ leafPieces contents, p.1 = pos

/-- Every place between characters of the text is read at. -/
theorem readsAt_of_boundary (h : Boundary contents pos) : ReadsAt contents pos := by
  rcases Nat.lt_or_eq_of_le h.le_size with hlt | heq
  · obtain ⟨p, hp, hat⟩ := Rope.exists_piece_of_build contents.size 0 h hlt
    rw [Nat.zero_add] at hat
    exact .inr ⟨p, hp, hat⟩
  · exact .inl heq

private theorem ReadsAt.split (h : ReadsAt contents pos) :
    ∃ front back, leafPieces contents = front ++ back ∧ EndToEnd 0 front pos ∧
      EndToEnd pos back contents.size := by
  have hread := endToEnd_leafPieces contents
  obtain rfl | ⟨p, hp, rfl⟩ := h
  · exact ⟨_, [], (List.append_nil _).symm, hread, rfl⟩
  · obtain ⟨front, back, hsplit⟩ := List.append_of_mem hp
    rw [hsplit, EndToEnd.append_iff] at hread
    obtain ⟨_, hfront, rfl, hback⟩ := hread
    exact ⟨front, p :: back, hsplit, hfront, rfl, hback⟩

/-! ### The bytes of what is read -/

private theorem flatMap_bytes_leafPieces (contents : ByteArray) :
    (leafPieces contents).flatMap (·.2.bytes) = byteList contents := by
  rw [leafPieces, Rope.flatMap_bytes_leafwise]
  exact (Rope.ofBytes_holds contents).bytes

private theorem getElem?_bytes {p : Nat × Piece} (hp : p ∈ leafPieces contents) {j : Nat}
    (hj : j < p.2.size) : p.2.bytes[j]? = some (byteAt contents (p.1 + j)) := by
  obtain ⟨front, back, hsplit⟩ := List.append_of_mem hp
  have hread := endToEnd_leafPieces contents
  rw [hsplit, EndToEnd.append_iff] at hread
  obtain ⟨_, hfront, rfl, hback⟩ := hread
  have hlength := hfront.add_length_bytes
  have hfits := hback.add_length_bytes
  rw [Nat.zero_add] at hlength
  rw [← Text.getElem?_byteList (by omega), ← flatMap_bytes_leafPieces, hsplit,
    List.flatMap_append, List.flatMap_cons, List.getElem?_append_right (by omega), hlength,
    Nat.add_sub_cancel_left, List.getElem?_append_left (by rwa [Piece.length_bytes])]

private theorem eq_char_of_mem_bytes {c : Char} (hc : c.utf8Size = 1) {p : Nat × Piece}
    (hp : p ∈ leafPieces contents) (hmem : c.val.toUInt8 ∈ p.2.bytes) : p.2 = .char c := by
  obtain ⟨text, i, hi, hpiece⟩ := Rope.exists_pieceAt hp
  rw [hpiece] at hmem ⊢
  exact (Text.mem_bytes_pieceAt hc hi).mp hmem

private theorem eq_char_iff_byteAt {c : Char} (hc : c.utf8Size = 1) {p : Nat × Piece}
    (hp : p ∈ leafPieces contents) : p.2 = .char c ↔ byteAt contents p.1 = c.val.toUInt8 := by
  have hfirst := getElem?_bytes hp p.2.size_pos
  rw [Nat.add_zero] at hfirst
  constructor
  · intro hchar
    rw [hchar, Piece.bytes, String.utf8EncodeChar_eq_singleton hc] at hfirst
    exact (Option.some.inj hfirst).symm
  · intro hbyte
    rw [hbyte] at hfirst
    exact eq_char_of_mem_bytes hc hp (List.mem_of_getElem? hfirst)

private theorem mem_leafPieces_of_byteAt {c : Char} (hc : c.utf8Size = 1)
    (hpos : pos < contents.size)
    (hbyte : byteAt contents pos = c.val.toUInt8) : (pos, .char c) ∈ leafPieces contents := by
  obtain ⟨p, hp, hle, hlt⟩ :=
    (endToEnd_leafPieces contents).exists_holding (Nat.zero_le pos) hpos
  have hget := getElem?_bytes hp (show pos - p.1 < p.2.size by omega)
  rw [Nat.add_sub_cancel' hle, hbyte] at hget
  have hchar := eq_char_of_mem_bytes hc hp (List.mem_of_getElem? hget)
  have hone : p.2.size = 1 := by
    rw [hchar]
    exact hc
  obtain rfl : p = (pos, .char c) := Prod.ext (by omega) hchar
  exact hp

/-! ### Delimiters -/

/-- An offset in the middle of a delimiter, between its carriage return and its line feed. -/
def InDelimiter (contents : ByteArray) (pos : Nat) : Prop :=
  0 < pos ∧ byteAt contents (pos - 1) = 0x0d ∧ byteAt contents pos = 0x0a

instance (contents : ByteArray) (pos : Nat) : Decidable (InDelimiter contents pos) :=
  inferInstanceAs (Decidable (_ ∧ _))

private theorem isLineFeed_iff (contents : ByteArray) (pos : Nat) :
    (ofBytes contents).isLineFeed pos = true ↔ byteAt contents pos = 0x0a := by
  rw [isLineFeed, size_ofBytes, Bool.and_eq_true, decide_eq_true_eq, beq_iff_eq]
  rcases Nat.lt_or_ge pos contents.size with hlt | hge
  · have hbyte := (Rope.ofBytes_holds contents).byteAt hlt
    rw [Text.getElem?_byteList hlt, Option.some.injEq] at hbyte
    rw [hbyte]
    exact ⟨fun h ↦ h.2, fun h ↦ ⟨hlt, h⟩⟩
  · have hnone : byteAt contents pos = 0 := dif_neg (Nat.not_lt.mpr hge)
    rw [hnone]
    exact ⟨fun h ↦ absurd h.1 (Nat.not_lt.mpr hge), fun h ↦ absurd h (by decide)⟩

private theorem accepts_isDelimiter_iff {p : Nat × Piece} (hp : p.2.toChar ≠ '\n') :
    accepts (ofBytes contents).isDelimiter p = true ↔
      p.2 = .char '\r' ∧ byteAt contents (p.1 + 1) = 0x0a := by
  rw [accepts, isDelimiter, beq_eq_false_iff_ne.mpr hp, Bool.false_or, Bool.and_eq_true,
    beq_iff_eq, isLineFeed_iff, Piece.toChar_eq_iff (by decide)]

/-! ### Places of offsets -/

/-- What a buffer reads of a line, cut at an offset. -/
structure CutAt (contents : ByteArray) (pos line : Nat) (before back : List (Nat × Piece)) :
    Prop where
  line_lt : line < (ofBytes contents).lines
  pieces : piecesFromLine contents line = before ++ back
  ne_feed : ∀ p ∈ before, p.2.toChar ≠ '\n'
  front : ∃ start, EndToEnd start before pos
  back : EndToEnd pos back contents.size
  place : (ofBytes contents).positionOf pos = (line, before.length)

variable {before back : List (Nat × Piece)}

private theorem positionOf_eq_front {front : List (Nat × Piece)}
    (hsplit : leafPieces contents = front ++ back) (hfront : EndToEnd 0 front pos)
    (hback : EndToEnd pos back contents.size) :
    (ofBytes contents).positionOf pos =
      (front.map (·.2.toChar)).foldl advancePosition (0, 0) := by
  rw [positionOf_eq_foldl, Int.toNat_natCast, hsplit, hfront.takeWhile_lt hback]

private theorem positionOf_next {p : Nat × Piece} (hp : p ∈ leafPieces contents) :
    (ofBytes contents).positionOf (p.1 + p.2.size : Nat) =
      advancePosition ((ofBytes contents).positionOf p.1) p.2.toChar := by
  obtain ⟨front, back, hsplit⟩ := List.append_of_mem hp
  have hread := endToEnd_leafPieces contents
  rw [hsplit, EndToEnd.append_iff] at hread
  obtain ⟨_, hfront, rfl, hback⟩ := hread
  have hnext : leafPieces contents = (front ++ [p]) ++ back := by
    rw [List.append_assoc, List.singleton_append, hsplit]
  rw [positionOf_eq_front hsplit hfront ⟨rfl, hback⟩,
    positionOf_eq_front hnext (EndToEnd.append_iff.mpr ⟨_, hfront, rfl, rfl⟩) hback,
    List.map_append, List.foldl_append]
  rfl

/-- The line of an offset that is read at is cut there. -/
theorem ReadsAt.cutAt (h : ReadsAt contents pos) :
    ∃ line before back, CutAt contents pos line before back := by
  obtain ⟨front, back, hsplit, hfront, hback⟩ := h.split
  -- The line feeds in front of the offset lead to the line on which it is.
  obtain ⟨before, habove, hends, hbehind⟩ := Text.exists_lastLine feedPiece front
  have hne : ∀ p ∈ before, p.2.toChar ≠ '\n' := fun p hp hfeed ↦
    hends p hp (by rw [Text.feedPiece_eq, hfeed]; rfl)
  refine ⟨front.countP feedPiece, before, back, ?_, ?_, hne, ?_, hback, ?_⟩
  · rw [lines_eq_length, Text.length_linesOf, hsplit, List.countP_append]
    exact Nat.lt_succ_of_le (Nat.le_add_right _ _)
  · rw [piecesFromLine, hsplit, hbehind]
  · rw [habove, EndToEnd.append_iff] at hfront
    obtain ⟨start, -, hbefore⟩ := hfront
    exact ⟨start, hbefore⟩
  · rw [positionOf_eq_front hsplit hfront hback]
    conv_lhs => rw [habove]
    rw [List.map_append, List.foldl_append, foldl_advancePosition_lines (Nat.le_refl _),
      foldl_advancePosition_of_ne, List.length_map]
    · by_cases hzero : front.countP feedPiece = 0
      · simp [hzero]
      · simp [hzero]
    · intro c hc
      obtain ⟨p, hp, rfl⟩ := List.mem_map.mp hc
      exact hne p hp

namespace CutAt

private theorem mem_leafPieces (h : CutAt contents pos line before back) {p : Nat × Piece}
    (hp : p ∈ before ++ back) : p ∈ leafPieces contents := by
  rw [leafPieces_eq contents line, h.pieces]
  exact List.mem_append_right _ hp

private theorem inDelimiter (h : CutAt contents pos line before back) {p : Nat × Piece}
    (hp : p ∈ before) (haccepts : accepts (ofBytes contents).isDelimiter p = true) :
    InDelimiter contents pos := by
  obtain ⟨hreturn, hfeed⟩ := (accepts_isDelimiter_iff (h.ne_feed p hp)).mp haccepts
  have hbyte := (eq_char_iff_byteAt (by decide) (h.mem_leafPieces (List.mem_append_left _ hp))).mp
    hreturn
  have hone : p.2.size = 1 := by
    rw [hreturn]
    rfl
  obtain ⟨start, hread⟩ := h.front
  obtain ⟨front, behind, hsplit⟩ := List.append_of_mem hp
  rw [hsplit, EndToEnd.append_iff] at hread
  obtain ⟨_, -, rfl, hbehind⟩ := hread
  rw [hone] at hbehind
  cases behind with
  | nil =>
    obtain rfl : p.1 + 1 = pos := hbehind
    exact ⟨Nat.succ_pos _, hbyte, hfeed⟩
  | cons q behind =>
    -- The line feed would be read in front of the offset.
    have hq : q ∈ before := by
      rw [hsplit]
      exact List.mem_append_right _ (List.mem_cons_of_mem _ List.mem_cons_self)
    have hchar : q.2 = .char '\n' := by
      rw [eq_char_iff_byteAt (by decide) (h.mem_leafPieces (List.mem_append_left _ hq)), hbehind.1]
      exact hfeed
    exact absurd (by rw [hchar]; rfl) (h.ne_feed q hq)

private theorem row_eq (h : CutAt contents pos line before back)
    (hout : ¬ InDelimiter contents pos) :
    row contents line =
      before ++ back.takeWhile (!accepts (ofBytes contents).isDelimiter ·) := by
  rw [row, h.pieces, List.takeWhile_append_of_pos]
  intro p hp
  rw [Bool.not_eq_true', ← Bool.not_eq_true]
  exact fun haccepts ↦ hout (h.inDelimiter hp haccepts)

private theorem elim_getElem? (h : CutAt contents pos line before back) :
    ((piecesFromLine contents line)[before.length]?).elim contents.size Prod.fst = pos := by
  rw [h.pieces, List.getElem?_append_right (Nat.le_refl _), Nat.sub_self]
  have hback := h.back
  cases back with
  | nil => exact hback.symm
  | cons p back => exact hback.1

end CutAt

/-- Outside of a delimiter the offset of a character is that of its place. -/
theorem ReadsAt.isPlace (h : ReadsAt contents pos) (hout : ¬ InDelimiter contents pos) :
    ∃ line col, (ofBytes contents).positionOf pos = (line, col) ∧
      IsPlace (ofBytes contents) line col ∧ (ofBytes contents).offsetOf line col = .ok pos := by
  obtain ⟨line, before, back, hcut⟩ := h.cutAt
  have hlength : before.length ≤ (row contents line).length := by
    rw [hcut.row_eq hout, List.length_append]
    exact Nat.le_add_right _ _
  refine ⟨line, before.length, hcut.place,
    ⟨hcut.line_lt, _, charsInLine_eq_ok hcut.line_lt, hlength⟩, ?_⟩
  rw [offsetOf_eq_ok hcut.line_lt hlength, hcut.elim_getElem?]

/-- In the middle of a delimiter the place of an offset is behind the carriage return, where the
line ends; its offset is that of the delimiter. -/
theorem offsetOf_of_inDelimiter (hin : InDelimiter contents pos) :
    ∃ line col, (ofBytes contents).positionOf pos = (line, col) ∧
      (ofBytes contents).offsetOf line col = .ok (pos - 1) := by
  obtain ⟨hpos, hreturn, hfeed⟩ := hin
  have hlt : pos - 1 < contents.size := by
    rw [← Nat.not_le]
    intro hge
    rw [byteAt, dif_neg (Nat.not_lt.mpr hge)] at hreturn
    exact absurd hreturn (by decide)
  have hmem : (pos - 1, Piece.char '\r') ∈ leafPieces contents :=
    mem_leafPieces_of_byteAt (by decide) hlt hreturn
  have hout : ¬ InDelimiter contents (pos - 1) := by
    rintro ⟨-, -, hbyte⟩
    rw [hreturn] at hbyte
    exact absurd hbyte (by decide)
  obtain ⟨line, before, back, hcut⟩ := ReadsAt.cutAt (.inr ⟨_, hmem, rfl⟩)
  have hplace : (ofBytes contents).positionOf pos = (line, before.length + 1) := by
    have hnext := positionOf_next hmem
    have hone : pos - 1 + (Piece.char '\r').size = pos := Nat.sub_add_cancel hpos
    rw [hone, hcut.place] at hnext
    exact hnext
  -- The row ends where the carriage return is read.
  have hrow : row contents line = before := by
    cases back with
    | nil =>
      have hend : pos - 1 = contents.size := hcut.back
      omega
    | cons p back =>
      have hat : p.1 = pos - 1 := hcut.back.1
      have hp := hcut.mem_leafPieces (List.mem_append_right _ List.mem_cons_self)
      have hchar : p.2 = .char '\r' := by
        rw [eq_char_iff_byteAt (by decide) hp, hat]
        exact hreturn
      have haccepts : accepts (ofBytes contents).isDelimiter p = true := by
        rw [accepts_isDelimiter_iff (by rw [hchar]; decide), hat, Nat.sub_add_cancel hpos]
        exact ⟨hchar, hfeed⟩
      rw [hcut.row_eq hout, List.takeWhile_cons_of_neg (by simp [haccepts]), List.append_nil]
  refine ⟨line, before.length + 1, hplace, ?_⟩
  rw [offsetOf_eq_min hcut.line_lt, hrow, Nat.min_eq_right (Nat.le_succ _), hcut.elim_getElem?]

/-- A line and column have an offset in the text. -/
theorem offsetOf_le_size (h : line < (ofBytes contents).lines) (col : Nat) :
    Succeeds ((ofBytes contents).offsetOf line col) (· ≤ contents.size) := by
  rw [offsetOf_eq_min h]
  refine .of_ok ?_
  cases hget : (piecesFromLine contents line)[min col (row contents line).length]? with
  | none => exact Nat.le_refl _
  | some p =>
    have hmem : p ∈ leafPieces contents := by
      rw [leafPieces_eq contents line]
      exact List.mem_append_right _ (List.mem_of_getElem? hget)
    exact Nat.le_of_lt ((endToEnd_leafPieces contents).lt hmem)

/-- A place is the nearest one to itself. -/
theorem IsPlace.clamp_eq {b : Buffer} {col : Nat} (h : IsPlace b line col) :
    b.clamp line col = .ok (line, col) := by
  obtain ⟨hline, n, hn, hcol⟩ := h
  have hnearest : min line (b.lines - 1) = line := Nat.min_eq_left (Nat.le_sub_one_of_lt hline)
  unfold clamp
  simp only [Int.toNat_natCast, hnearest]
  rw [if_neg (Int.not_lt.mpr (Int.natCast_nonneg col)), hn]
  exact congrArg (fun col ↦ Except.ok (line, col)) (Nat.min_eq_left hcol)

end Buffer

/-- A cursor stands on a place of a buffer. -/
def Cursor.IsIn (b : Buffer) (c : Cursor) : Prop := b.IsPlace c.line c.col

/-- Where a cursor stands that is moved to an offset: there, or in front of the delimiter around
it. -/
def Buffer.landing (contents : ByteArray) (pos : Nat) : Nat :=
  if InDelimiter contents pos then pos - 1 else pos

/-- Outside of a delimiter a cursor lands where it is moved to. -/
theorem Buffer.landing_eq {contents : ByteArray} {pos : Nat} (h : ¬ InDelimiter contents pos) :
    landing contents pos = pos := if_neg h

/-- A cursor lands nowhere behind the offset it is moved to. -/
theorem Buffer.landing_le (contents : ByteArray) (pos : Nat) : landing contents pos ≤ pos := by
  unfold landing
  split
  · exact Nat.sub_le _ _
  · exact Nat.le_refl _

/-- A cursor that is moved to an offset lands there. -/
theorem Cursor.offset_setOffset {contents : ByteArray} {pos : Nat}
    (h : Buffer.ReadsAt contents pos) (c : Cursor) :
    (c.setOffset (Buffer.ofBytes contents) pos).offset (Buffer.ofBytes contents) =
      .ok (Buffer.landing contents pos) := by
  unfold Buffer.landing
  split
  · next hin =>
    obtain ⟨line, col, hplace, hoffset⟩ := Buffer.offsetOf_of_inDelimiter hin
    rw [setOffset, hplace]
    exact hoffset
  · next hout =>
    obtain ⟨line, col, hplace, -, hoffset⟩ := h.isPlace hout
    rw [setOffset, hplace]
    exact hoffset

namespace Buffer

/-- Offsets and places belong to each other. An offset between two characters, as the text is read
in one piece or leaf by leaf, is turned into a place of the buffer and back into itself, so that a
cursor moved to it stands there. Only the offset in the middle of a delimiter, which has no place of
its own, is taken to the start of the delimiter. -/
theorem offsets_match_places (contents : ByteArray) {pos : Nat}
    (hpos : Boundary contents pos ∨ ReadsAt contents pos) :
    ∃ line col, (ofBytes contents).positionOf pos = (line, col) ∧
      (¬ InDelimiter contents pos →
        IsPlace (ofBytes contents) line col ∧
        (ofBytes contents).clamp line col = .ok (line, col) ∧
        (ofBytes contents).offsetOf line col = .ok pos ∧
        ∀ c : Cursor, (c.setOffset (ofBytes contents) pos).IsIn (ofBytes contents) ∧
          (c.setOffset (ofBytes contents) pos).offset (ofBytes contents) = .ok pos) ∧
      (InDelimiter contents pos → (ofBytes contents).offsetOf line col = .ok (pos - 1)) := by
  have hread : ReadsAt contents pos := hpos.elim readsAt_of_boundary id
  by_cases hin : InDelimiter contents pos
  · obtain ⟨line, col, hplace, hoffset⟩ := offsetOf_of_inDelimiter hin
    exact ⟨line, col, hplace, fun hout ↦ absurd hin hout, fun _ ↦ hoffset⟩
  · obtain ⟨line, col, hplace, his, hoffset⟩ := hread.isPlace hin
    refine ⟨line, col, hplace, fun _ ↦ ⟨his, his.clamp_eq, hoffset, fun c ↦ ?_⟩,
      fun hin' ↦ absurd hin' hin⟩
    rw [Cursor.setOffset, hplace]
    exact ⟨his, hoffset⟩

/-- Behind a delimiter of two characters an offset has a place, in its middle it has none. -/
theorem offsets_match_places_delimiter :
    (Boundary "é\r\nb".toUTF8 4 ∧ ¬ InDelimiter "é\r\nb".toUTF8 4 ∧
      ∃ line col, (ofBytes "é\r\nb".toUTF8).positionOf 4 = (line, col) ∧
        (ofBytes "é\r\nb".toUTF8).offsetOf line col = .ok 4) ∧
    Boundary "é\r\nb".toUTF8 3 ∧ InDelimiter "é\r\nb".toUTF8 3 ∧
      ∃ line col, (ofBytes "é\r\nb".toUTF8).positionOf 3 = (line, col) ∧
        (ofBytes "é\r\nb".toUTF8).offsetOf line col = .ok 2 := by
  have hfirst : Boundary "é\r\nb".toUTF8 2 := Boundary.start.next (by decide +kernel)
  have hmiddle : Boundary "é\r\nb".toUTF8 3 := hfirst.next (by decide +kernel)
  have hbehind : Boundary "é\r\nb".toUTF8 4 := hmiddle.next (by decide +kernel)
  have hout : ¬ InDelimiter "é\r\nb".toUTF8 4 := by decide +kernel
  have hin : InDelimiter "é\r\nb".toUTF8 3 := by decide +kernel
  obtain ⟨line, col, hplace, hkept, -⟩ := offsets_match_places "é\r\nb".toUTF8 (.inl hbehind)
  obtain ⟨line', col', hplace', -, hmoved⟩ := offsets_match_places "é\r\nb".toUTF8 (.inl hmiddle)
  exact ⟨⟨hbehind, hout, line, col, hplace, (hkept hout).2.2.1⟩, hmiddle, hin, line', col', hplace',
    hmoved hin⟩

/-- The line feed of a delimiter of two characters does not keep its offset. -/
theorem offset_in_delimiter_moves :
    ¬ ∀ (contents : ByteArray) (pos : Nat), Boundary contents pos →
      (ofBytes contents).offsetOf ((ofBytes contents).positionOf pos).1
        ((ofBytes contents).positionOf pos).2 = .ok pos := by
  intro hall
  have hmiddle : Boundary "\r\n".toUTF8 1 := Boundary.start.next (by decide +kernel)
  have hkept : (ofBytes "\r\n".toUTF8).offsetOf ((ofBytes "\r\n".toUTF8).positionOf 1).1
      ((ofBytes "\r\n".toUTF8).positionOf 1).2 = .ok 1 := hall _ 1 hmiddle
  have hmoved : (ofBytes "\r\n".toUTF8).offsetOf ((ofBytes "\r\n".toUTF8).positionOf 1).1
      ((ofBytes "\r\n".toUTF8).positionOf 1).2 = .ok 0 := by decide +kernel
  rw [hmoved] at hkept
  cases hkept

end Buffer

end CodeViewer
