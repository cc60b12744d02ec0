import CodeViewer.Proofs.Buffer.OnePiece

/-!
# Places of a buffer and their offsets

A place of a buffer is a line and a column on it. Its offset is found by reading from the start of
its line, an offset is turned back into a place by reading from the start of the buffer. Both ways
read the same, also where a leaf starts inside a character: a rope that is cut at the start of a
line keeps its other leaves as they are, and a line feed is never part of another character.
-/

namespace CodeViewer

open Text (Piece Laid Boundary byteList length_byteList linesOf lineOffset feedByte feedPiece)

/-! ### Pieces end to end -/

namespace Rope

/-- Pieces that lie end to end from one offset to another, whatever text they are read from. -/
def EndToEnd : (start : Nat) → List (Nat × Piece) → (stop : Nat) → Prop
  | i, [], k => i = k
  | i, p :: ps, k => p.1 = i ∧ EndToEnd (i + p.2.size) ps k

namespace EndToEnd

variable {i k : Nat} {ps qs : List (Nat × Piece)}

/-- Pieces lie end to end if those of both parts do and the parts meet. -/
theorem append_iff : EndToEnd i (ps ++ qs) k ↔ ∃ j, EndToEnd i ps j ∧ EndToEnd j qs k := by
  induction ps generalizing i with
  | nil => simp [EndToEnd]
  | cons p ps ih => simp only [List.cons_append, EndToEnd, ih, ← exists_and_left, and_assoc]

/-- The bytes of the pieces reach from one offset to the other. -/
theorem add_length_bytes (h : EndToEnd i ps k) : i + (ps.flatMap (·.2.bytes)).length = k := by
  induction ps generalizing i with
  | nil => exact h
  | cons p ps ih =>
    have hrest := ih h.2
    rw [List.flatMap_cons, List.length_append, Piece.length_bytes]
    omega

/-- Every piece starts in front of the end. -/
theorem lt (h : EndToEnd i ps k) {p : Nat × Piece} (hp : p ∈ ps) : p.1 < k := by
  induction ps generalizing i with
  | nil => cases hp
  | cons q ps ih =>
    rcases List.mem_cons.mp hp with rfl | hp
    · have hlength := h.2.add_length_bytes
      have hpos := p.2.size_pos
      have hfirst := h.1
      omega
    · exact ih h.2 hp

/-- The pieces that start in front of an offset at which one starts are those that end there. -/
theorem takeWhile_lt {j : Nat} (hp : EndToEnd i ps j) (hq : EndToEnd j qs k) :
    (ps ++ qs).takeWhile (fun p ↦ decide (p.1 < j)) = ps := by
  rw [List.takeWhile_append_of_pos fun p hmem ↦ decide_eq_true (hp.lt hmem)]
  cases qs with
  | nil => simp
  | cons q qs =>
    have hfirst : ¬ q.1 < j := Nat.not_lt.mpr (Nat.le_of_eq hq.1.symm)
    simp [hfirst]

private theorem cut (h : EndToEnd i ps k) (n : Nat) :
    EndToEnd i (ps.take n) ((ps[n]?).elim k Prod.fst) ∧
      EndToEnd ((ps[n]?).elim k Prod.fst) (ps.drop n) k := by
  induction ps generalizing i n with
  | nil =>
    rw [List.take_nil, List.drop_nil]
    exact ⟨h, rfl⟩
  | cons p ps ih =>
    obtain ⟨rfl, hrest⟩ := h
    cases n with
    | zero => exact ⟨rfl, rfl, hrest⟩
    | succ n =>
      obtain ⟨hfront, hback⟩ := ih hrest n
      exact ⟨⟨rfl, hfront⟩, hback⟩

end EndToEnd

/-! ### What is read leaf by leaf -/

private theorem endToEnd_of_laid {text : ByteArray} {i k : Nat} {ps : List (Nat × Piece)}
    (h : Laid text i ps k) (base : Nat) :
    EndToEnd (base + i) (ps.map fun p ↦ (base + p.1, p.2)) (base + k) := by
  induction ps generalizing i with
  | nil => exact congrArg (base + ·) h
  | cons p ps ih =>
    obtain ⟨rfl, -, -, hrest⟩ := h
    refine ⟨rfl, ?_⟩
    rw [Nat.add_assoc]
    exact ih hrest

/-- Leaves are read in two parts, the second of which starts behind the first. -/
theorem leafwise_append (base : Nat) (texts more : List ByteArray) :
    leafwise base (texts ++ more) =
      leafwise base texts ++ leafwise (base + (texts.flatMap byteList).length) more := by
  induction texts generalizing base with
  | nil => rfl
  | cons text texts ih =>
    rw [List.cons_append, leafwise, leafwise, ih, List.flatMap_cons, List.length_append,
      length_byteList, List.append_assoc, Nat.add_assoc]

/-- What is read leaf by leaf lies end to end. -/
theorem endToEnd_leafwise (base : Nat) (texts : List ByteArray) :
    EndToEnd base (leafwise base texts) (base + (texts.flatMap byteList).length) := by
  induction texts generalizing base with
  | nil => rfl
  | cons text texts ih =>
    rw [List.flatMap_cons, List.length_append, length_byteList, ← Nat.add_assoc]
    exact EndToEnd.append_iff.mpr ⟨_, endToEnd_of_laid (Text.pieces_laid text) base, ih _⟩

/-- What is read leaf by leaf is read from the bytes of the leaves. -/
theorem flatMap_bytes_leafwise (base : Nat) (texts : List ByteArray) :
    (leafwise base texts).flatMap (·.2.bytes) = texts.flatMap byteList := by
  induction texts generalizing base with
  | nil => rfl
  | cons text texts ih =>
    have htext := (Text.pieces_laid text).byteList_drop
    rw [List.drop_zero, List.drop_of_length_le (Nat.le_of_eq (length_byteList text)),
      List.append_nil] at htext
    rw [leafwise, List.flatMap_append, ih, List.flatMap_map, List.flatMap_cons, htext]

/-- What is read leaf by leaf is read somewhere in a leaf. -/
theorem exists_pieceAt {base : Nat} {texts : List ByteArray} {p : Nat × Piece}
    (h : p ∈ leafwise base texts) :
    ∃ (text : ByteArray) (i : Nat), i < text.size ∧ p.2 = Text.pieceAt text i := by
  induction texts generalizing base with
  | nil => cases h
  | cons text texts ih =>
    rcases List.mem_append.mp h with h | h
    · obtain ⟨q, hq, rfl⟩ := List.mem_map.mp h
      obtain ⟨-, -, hlt, hpiece⟩ := (Text.pieces_laid text).mem hq
      exact ⟨text, q.1, hlt, hpiece⟩
    · exact ih h

/-- The bytes of leaves are cut into lines where what is read leaf by leaf is. -/
theorem linesOf_leafwise (base : Nat) (texts : List ByteArray) :
    linesOf feedByte (texts.flatMap byteList) =
      (linesOf feedPiece (leafwise base texts)).map (·.flatMap (·.2.bytes)) := by
  rw [← flatMap_bytes_leafwise base texts]
  apply Text.linesOf_flatMap feedPiece
  · intro p _ hfeed
    refine ⟨0x0a, ?_, rfl⟩
    rw [eq_of_beq hfeed]
    decide
  · intro p hp hno b hb hfeed
    obtain ⟨text, i, hi, hpiece⟩ := exists_pieceAt hp
    rw [hpiece, eq_of_beq hfeed] at hb
    have hread := (Text.mem_bytes_pieceAt (c := '\n') (by decide) hi).mp hb
    exact hno (beq_iff_eq.mpr (hpiece.trans hread))

/-! ### Cutting a rope between two pieces -/

/-- Both sides of every node are too large to become part of a single leaf. -/
def LargeSides : Rope → Prop
  | leaf _ => True
  | node _ left right =>
    joinLength ≤ left.size ∧ joinLength ≤ right.size ∧ left.LargeSides ∧ right.LargeSides

private theorem size_build (fuel : Nat) (text : ByteArray) :
    (build fuel text).size = text.size := by
  cases fuel with
  | zero => rfl
  | succ fuel =>
    unfold build
    split <;> rfl

private theorem build_largeSides (fuel : Nat) (text : ByteArray) :
    (build fuel text).LargeSides := by
  induction fuel generalizing text with
  | zero => trivial
  | succ fuel ih =>
    unfold build
    split
    · trivial
    · next hlarge =>
      simp only [splitLength] at hlarge
      refine ⟨?_, ?_, ih _, ih _⟩
      · rw [size_build, ByteArray.size_extract, joinLength]
        omega
      · rw [size_build, ByteArray.size_extract, joinLength]
        omega

private theorem ofBytes_largeSides (text : ByteArray) : (ofBytes text).LargeSides :=
  build_largeSides _ _

private theorem leaves_join {left right : Rope} (h : joinLength ≤ left.size + right.size) :
    (join left right).leaves = left.leaves ++ right.leaves := by
  rw [join, if_neg (Nat.not_lt.mpr h)]
  rfl

private theorem eq_nil_of_no_bytes {ps : List (Nat × Piece)}
    (h : (ps.flatMap (·.2.bytes)).length = 0) : ps = [] := by
  cases ps with
  | nil => rfl
  | cons p ps =>
    have hpos := p.2.size_pos
    rw [List.flatMap_cons, List.length_append, Piece.length_bytes] at h
    omega

private theorem leafwise_extract {text : ByteArray} {base i : Nat}
    {before after : List (Nat × Piece)} (hread : leafwise base [text] = before ++ after)
    (hbefore : (before.flatMap (·.2.bytes)).length = i) :
    leafwise (base + i) [text.extract i text.size] = after := by
  rw [leafwise, leafwise, List.append_nil, List.map_eq_append_iff] at hread
  obtain ⟨front, back, hpieces, rfl, rfl⟩ := hread
  have hlaid := Text.pieces_laid text
  rw [hpieces, Laid.append_iff] at hlaid
  obtain ⟨j, hfront, hback⟩ := hlaid
  have hj : i = j := by
    rw [← hbefore, List.flatMap_map, hfront.length_bytes, Nat.sub_zero]
  subst hj
  have hi : i ≤ text.size := hback.le
  rw [leafwise, leafwise, List.append_nil, hback.pieces_extract hi, List.map_map]
  apply List.map_congr_left
  intro p hp
  have hle := (hback.mem hp).1
  simp only [Function.comp_apply, Prod.mk.injEq, and_true]
  omega

/-- Cutting a rope between two pieces changes nothing about what is read behind the cut. -/
theorem leafwise_splitAt {r : Rope} (hsmall : r.SmallLeaves) (hlarge : r.LargeSides)
    (hsized : r.WellSized) {base i : Nat} {before after : List (Nat × Piece)}
    (hread : leafwise base r.leaves = before ++ after)
    (hbefore : (before.flatMap (·.2.bytes)).length = i) :
    leafwise (base + i) (r.splitAt i).2.leaves = after := by
  induction r generalizing base i before after with
  | leaf text =>
    have htext : text.size ≤ splitLength := hsmall text (List.mem_singleton_self text)
    have hrest : (text.extract i text.size).size ≤ splitLength := by
      rw [ByteArray.size_extract]
      omega
    rw [splitAt, ofBytes_eq_leaf hrest]
    exact leafwise_extract hread hbefore
  | node n left right ihl ihr =>
    obtain ⟨hl, hr, hlargeL, hlargeR⟩ := hlarge
    obtain ⟨-, hsizedL, hsizedR⟩ := hsized
    have hsmallL : left.SmallLeaves := fun text h ↦ hsmall text (List.mem_append_left _ h)
    have hsmallR : right.SmallLeaves := fun text h ↦ hsmall text (List.mem_append_right _ h)
    have hleft : ((leafwise base left.leaves).flatMap (·.2.bytes)).length = left.size := by
      rw [flatMap_bytes_leafwise]
      exact hsizedL.length_bytes
    have hright : base + (left.leaves.flatMap byteList).length = base + left.size :=
      congrArg (base + ·) hsizedL.length_bytes
    rw [leaves, leafwise_append, hright] at hread
    -- The cut is in the right side, or in the left side.
    rcases List.append_eq_append_iff.mp hread with ⟨more, rfl, hmore⟩ | ⟨more, hmore, rfl⟩
    · rw [List.flatMap_append, List.length_append, hleft] at hbefore
      by_cases hi : i = left.size
      · obtain rfl : more = [] := eq_nil_of_no_bytes (by omega)
        rw [splitAt, if_pos hi, hi]
        exact hmore
      · have hrest := ihr hsmallR hlargeR hsizedR hmore (i := i - left.size) (by omega)
        have hsum : base + left.size + (i - left.size) = base + i := by omega
        rw [splitAt, if_neg hi, if_neg (by omega)]
        rwa [hsum] at hrest
    · rw [hmore, List.flatMap_append, List.length_append, hbefore] at hleft
      by_cases hi : i = left.size
      · obtain rfl : more = [] := eq_nil_of_no_bytes (by omega)
        rw [splitAt, if_pos hi, hi]
        rfl
      · have hcut := ihl hsmallL hlargeL hsizedL hmore hbefore
        have hholds := (Holds.splitAt ⟨hsizedL, rfl⟩ i).2
        have hlength : ((left.splitAt i).2.leaves.flatMap byteList).length = left.size - i := by
          change (left.splitAt i).2.bytes.length = _
          rw [hholds.bytes, List.length_drop, hsizedL.length_bytes]
        have hsum : base + i + (left.size - i) = base + left.size := by omega
        rw [splitAt, if_neg hi, if_pos (by omega), leaves_join (by omega), leafwise_append, hcut,
          hlength, hsum]

end Rope

namespace Buffer

open Rope (leafwise accepts EndToEnd)

/-! ### Counting lines and columns -/

/-- Characters other than line feeds lead along their line. -/
theorem foldl_advancePosition_of_ne {chars : List Char} (h : ∀ c ∈ chars, c ≠ '\n')
    (place : Nat × Nat) :
    chars.foldl advancePosition place = (place.1, place.2 + chars.length) := by
  induction chars generalizing place with
  | nil => rfl
  | cons c rest ih =>
    obtain ⟨hc, hrest⟩ := List.forall_mem_cons.mp h
    rw [List.foldl_cons, advancePosition_of_ne hc, ih hrest, List.length_cons, Nat.add_assoc,
      Nat.add_comm 1]

/-- Whole lines lead to the start of the line behind them. -/
theorem foldl_advancePosition_lines {n : Nat} {ps : List (Nat × Piece)}
    (hn : n ≤ ps.countP feedPiece) (place : Nat × Nat) :
    ((((linesOf feedPiece ps).take n).flatten).map (·.2.toChar)).foldl advancePosition place =
      if n = 0 then place else (place.1 + n, 0) := by
  induction ps generalizing n place with
  | nil =>
    obtain rfl : n = 0 := Nat.le_zero.mp hn
    rfl
  | cons p ps ih =>
    cases n with
    | zero => rfl
    | succ n =>
      rw [List.countP_cons] at hn
      by_cases hfeed : feedPiece p
      · have hchar : p.2.toChar = '\n' := by
          rw [Text.feedPiece_eq] at hfeed
          exact eq_of_beq hfeed
        rw [if_pos hfeed] at hn
        rw [Text.linesOf_cons_of_pos feedPiece hfeed, List.take_succ_cons, List.flatten_cons,
          List.singleton_append, List.map_cons, List.foldl_cons, hchar, advancePosition_feed,
          ih (Nat.le_of_succ_le_succ hn), if_neg (Nat.succ_ne_zero n)]
        by_cases hzero : n = 0
        · simp [hzero]
        · simp only [hzero, if_false, Prod.mk.injEq, and_true]
          omega
      · have hchar : p.2.toChar ≠ '\n' := by
          intro he
          exact hfeed (by rw [Text.feedPiece_eq, he]; rfl)
        rw [if_neg hfeed] at hn
        have hrest := ih hn (advancePosition place p.2.toChar)
        obtain ⟨l, ls, hl⟩ := List.exists_cons_of_ne_nil (Text.linesOf_ne_nil feedPiece ps)
        rw [hl, List.take_succ_cons, List.flatten_cons, advancePosition_of_ne hchar,
          if_neg (Nat.succ_ne_zero n)] at hrest
        rw [Text.linesOf_cons_of_neg feedPiece hfeed, hl, List.modifyHead_cons,
          List.take_succ_cons, List.flatten_cons, List.cons_append, List.map_cons,
          List.foldl_cons, advancePosition_of_ne hchar, hrest, if_neg (Nat.succ_ne_zero n)]

/-! ### What a buffer reads -/

/-- What a buffer reads from its start on, leaf by leaf. -/
def leafPieces (contents : ByteArray) : List (Nat × Piece) :=
  leafwise 0 (Rope.ofBytes contents).leaves

/-- What a buffer reads from the start of a line on. -/
def piecesFromLine (contents : ByteArray) (line : Nat) : List (Nat × Piece) :=
  ((linesOf feedPiece (leafPieces contents)).drop line).flatten

/-- What a buffer reads of a line, without its delimiter. -/
def row (contents : ByteArray) (line : Nat) : List (Nat × Piece) :=
  (piecesFromLine contents line).takeWhile (!accepts (ofBytes contents).isDelimiter ·)

variable {contents : ByteArray} {line col : Nat}

private theorem flatMap_leaves (contents : ByteArray) :
    (Rope.ofBytes contents).leaves.flatMap byteList = byteList contents :=
  (Rope.ofBytes_holds contents).bytes

/-- What a buffer reads lies end to end in its text. -/
theorem endToEnd_leafPieces (contents : ByteArray) :
    EndToEnd 0 (leafPieces contents) contents.size := by
  have h := Rope.endToEnd_leafwise 0 (Rope.ofBytes contents).leaves
  rwa [flatMap_leaves, Nat.zero_add, length_byteList] at h

private theorem linesOf_leafPieces (contents : ByteArray) :
    linesOf feedByte (byteList contents) =
      (linesOf feedPiece (leafPieces contents)).map (·.flatMap (·.2.bytes)) := by
  rw [← flatMap_leaves]
  exact Rope.linesOf_leafwise 0 _

/-- A buffer has the lines that are read. -/
theorem lines_eq_length (contents : ByteArray) :
    (ofBytes contents).lines = (linesOf feedPiece (leafPieces contents)).length := by
  have hbytes := Text.linesOf_byteList contents
  rw [linesOf_leafPieces] at hbytes
  have hlength := congrArg List.length hbytes
  rw [List.length_map, List.length_map] at hlength
  rw [lines_ofBytes, hlength]

/-- The lines in front of a line and what is read from there on make up all that is read. -/
theorem leafPieces_eq (contents : ByteArray) (line : Nat) :
    leafPieces contents = ((linesOf feedPiece (leafPieces contents)).take line).flatten ++
      piecesFromLine contents line := by
  rw [piecesFromLine, ← List.flatten_append, List.take_append_drop, Text.flatten_linesOf]

private theorem length_lines_take (contents : ByteArray) (line : Nat) :
    ((((linesOf feedPiece (leafPieces contents)).take line).flatten).flatMap
      (·.2.bytes)).length = lineOffset feedByte (byteList contents) line := by
  rw [lineOffset, linesOf_leafPieces, ← List.map_take]
  simp only [List.flatMap, List.map_flatten, List.flatten_flatten, List.map_map,
    Function.comp_def]

private theorem leafwise_cut {before after : List (Nat × Piece)} {i : Nat}
    (hread : leafPieces contents = before ++ after)
    (hbefore : (before.flatMap (·.2.bytes)).length = i) :
    leafwise i ((Rope.ofBytes contents).splitAt i).2.leaves = after := by
  have hcut := Rope.leafwise_splitAt (Rope.ofBytes_smallLeaves contents)
    (Rope.ofBytes_largeSides contents) (Rope.ofBytes_holds contents).sized hread hbefore
  rwa [Nat.zero_add] at hcut

private theorem charsUntil_row (contents : ByteArray) (line : Nat) :
    ((ofBytes contents).rope.charsUntil (ofBytes contents).isDelimiter
        (lineOffset feedByte (byteList contents) line)).1.toList =
        (row contents line).map (fun p ↦ (p.1, p.2.toChar)) ∧
      ((ofBytes contents).rope.charsUntil (ofBytes contents).isDelimiter
        (lineOffset feedByte (byteList contents) line)).2 =
        ((piecesFromLine contents line)[(row contents line).length]?).map Prod.fst := by
  have hholds : (ofBytes contents).rope.Holds (byteList contents) := Rope.ofBytes_holds contents
  have hread := leafwise_cut (leafPieces_eq contents line) (length_lines_take contents line)
  obtain ⟨hchars, hstop⟩ := hholds.charsUntil (ofBytes contents).isDelimiter
    (lineOffset feedByte (byteList contents) line)
  change leafwise _ ((ofBytes contents).rope.splitAt _).2.leaves = _ at hread
  rw [hread] at hchars hstop
  refine ⟨hchars, hstop.trans ?_⟩
  rw [find?_eq_getElem?]
  rfl

/-- The characters of a line are those of its row. -/
theorem charsInLine_eq_ok (h : line < (ofBytes contents).lines) :
    (ofBytes contents).charsInLine line = .ok (row contents line).length := by
  rw [lines_ofBytes] at h
  rw [charsInLine, lineStart_ofBytes h]
  change Except.ok _ = Except.ok _
  rw [← Array.length_toList, (charsUntil_row contents line).1, List.length_map]

private theorem lineOffset_eq (contents : ByteArray) (line : Nat) :
    lineOffset feedByte (byteList contents) line =
      ((piecesFromLine contents line)[0]?).elim contents.size Prod.fst := by
  have hread := endToEnd_leafPieces contents
  rw [leafPieces_eq contents line, EndToEnd.append_iff] at hread
  obtain ⟨start, hbefore, hafter⟩ := hread
  have hlength := hbefore.add_length_bytes
  rw [length_lines_take, Nat.zero_add] at hlength
  rw [hlength]
  exact (hafter.cut 0).1

/-- A column of a line has the offset of what is read there, and a column behind the last character
that of the delimiter. -/
theorem offsetOf_eq_min (h : line < (ofBytes contents).lines) (col : Nat) :
    (ofBytes contents).offsetOf line col =
      .ok (((piecesFromLine contents line)[min col (row contents line).length]?).elim
        contents.size Prod.fst) := by
  rw [lines_ofBytes] at h
  obtain ⟨hchars, hstop⟩ := charsUntil_row contents line
  rw [offsetOf, lineStart_ofBytes h]
  simp only [bind, Except.bind, pure, Except.pure]
  by_cases hzero : col = 0
  · subst hzero
    rw [if_pos (Int.le_of_eq Int.natCast_zero), Nat.zero_min, lineOffset_eq]
  · have hget : ((ofBytes contents).rope.charsUntil (ofBytes contents).isDelimiter
        (lineOffset feedByte (byteList contents) line)).1[(col : Int).toNat]? =
          ((row contents line)[col]?).map (fun p ↦ (p.1, p.2.toChar)) := by
      rw [← Array.getElem?_toList, hchars, List.getElem?_map, Int.toNat_natCast]
    rw [if_neg (by omega), hget, hstop, size_ofBytes]
    by_cases hlt : col < (row contents line).length
    · have hsame : (piecesFromLine contents line)[col]? = some (row contents line)[col] :=
        List.prefix_iff_getElem?.mp (List.takeWhile_prefix _) col hlt
      rw [Nat.min_eq_left (Nat.le_of_lt hlt), hsame, List.getElem?_eq_getElem hlt]
      rfl
    · rw [Nat.min_eq_right (Nat.not_lt.mp hlt), List.getElem?_eq_none (Nat.not_lt.mp hlt)]
      cases (piecesFromLine contents line)[(row contents line).length]? <;> rfl

/-- A column of a line has the offset of what is read there. -/
theorem offsetOf_eq_ok (h : line < (ofBytes contents).lines)
    (hcol : col ≤ (row contents line).length) :
    (ofBytes contents).offsetOf line col =
      .ok (((piecesFromLine contents line)[col]?).elim contents.size Prod.fst) := by
  rw [offsetOf_eq_min h, Nat.min_eq_left hcol]

/-- An offset has the place that is reached behind the characters in front of it. -/
theorem positionOf_eq_foldl (contents : ByteArray) (pos : Int) :
    (ofBytes contents).positionOf pos =
      (((leafPieces contents).takeWhile (fun p ↦ decide (p.1 < pos.toNat))).map
        (·.2.toChar)).foldl advancePosition (0, 0) := by
  rw [positionOf]
  split
  · next hpos =>
    have hnone : (leafPieces contents).takeWhile (fun p ↦ decide (p.1 < pos.toNat)) = [] := by
      rw [Int.toNat_of_nonpos hpos, List.takeWhile_eq_nil_iff]
      simp
    rw [hnone]
    rfl
  · have hholds : (ofBytes contents).rope.Holds (byteList contents) := Rope.ofBytes_holds contents
    obtain ⟨hchars, -⟩ := hholds.charsUntil (fun offset _ ↦ pos.toNat ≤ offset) 0
    have hread : leafwise 0 ((ofBytes contents).rope.splitAt 0).2.leaves = leafPieces contents :=
      leafwise_cut (List.nil_append _).symm rfl
    have hfront : (fun p : Nat × Piece ↦ !accepts (fun offset _ ↦ pos.toNat ≤ offset) p) =
        fun p ↦ decide (p.1 < pos.toNat) := by
      funext p
      rw [accepts, ← decide_not, decide_eq_decide, Nat.not_le]
    rw [hread, hfront] at hchars
    rw [← Array.foldl_toList, hchars, List.foldl_map, List.foldl_map]

/-! ### Places -/

/-- A place of a buffer: one of its lines, and a column up to its delimiter. -/
def IsPlace (b : Buffer) (line col : Nat) : Prop :=
  line < b.lines ∧ ∃ n, b.charsInLine line = .ok n ∧ col ≤ n

/-- One place comes before another one: on a line above, or further left on the same line. -/
def Before (p q : Nat × Nat) : Prop := p.1 < q.1 ∨ p.1 = q.1 ∧ p.2 < q.2

private theorem ne_feed_of_mem_row {p : Nat × Piece} (hp : p ∈ row contents line) :
    p.2.toChar ≠ '\n' := by
  have hrefused := List.mem_takeWhile_imp hp
  intro hfeed
  simp [accepts, isDelimiter, hfeed] at hrefused

/-- The offset of a place is turned back into the place. -/
theorem positionOf_of_row (h : line < (ofBytes contents).lines)
    (hcol : col ≤ (row contents line).length) :
    (ofBytes contents).positionOf
      (((piecesFromLine contents line)[col]?).elim contents.size Prod.fst : Nat) = (line, col) := by
  have hrow : (piecesFromLine contents line).take col = (row contents line).take col := by
    obtain ⟨rest, hrest⟩ : row contents line <+: piecesFromLine contents line :=
      List.takeWhile_prefix _
    rw [← hrest, List.take_append_of_le_length hcol]
  -- The pieces in front of the offset are the lines above and those of the line up to the column.
  have hread := endToEnd_leafPieces contents
  rw [leafPieces_eq contents line, EndToEnd.append_iff] at hread
  obtain ⟨start, habove, hbehind⟩ := hread
  obtain ⟨hfront, hback⟩ := hbehind.cut col
  have hcut : leafPieces contents =
      (((linesOf feedPiece (leafPieces contents)).take line).flatten ++
        (piecesFromLine contents line).take col) ++ (piecesFromLine contents line).drop col := by
    rw [List.append_assoc, List.take_append_drop]
    exact leafPieces_eq contents line
  have hbefore := (EndToEnd.append_iff.mpr ⟨start, habove, hfront⟩).takeWhile_lt hback
  rw [← hcut] at hbefore
  have hlines : line ≤ (leafPieces contents).countP feedPiece := by
    rw [lines_eq_length, Text.length_linesOf] at h
    exact Nat.le_of_lt_succ h
  rw [positionOf_eq_foldl, Int.toNat_natCast, hbefore, List.map_append, List.foldl_append,
    foldl_advancePosition_lines hlines, hrow, foldl_advancePosition_of_ne]
  · rw [List.length_map, List.length_take, Nat.min_eq_left hcol]
    by_cases hzero : line = 0
    · simp [hzero]
    · simp [hzero]
  · intro c hc
    obtain ⟨p, hp, rfl⟩ := List.mem_map.mp hc
    exact ne_feed_of_mem_row (List.mem_of_mem_take hp)

/-- A later offset has no earlier place. -/
theorem positionOf_mono (contents : ByteArray) {pos pos' : Int} (h : pos ≤ pos') :
    ¬ Before ((ofBytes contents).positionOf pos') ((ofBytes contents).positionOf pos) := by
  -- The shorter front is a front of the longer one.
  have hshorter : (leafPieces contents).takeWhile (fun p ↦ decide (p.1 < pos.toNat)) =
      ((leafPieces contents).takeWhile (fun p ↦ decide (p.1 < pos'.toNat))).takeWhile
        (fun p ↦ decide (p.1 < pos.toNat)) := by
    rw [List.takeWhile_takeWhile]
    congr 1
    funext p
    rw [decide_eq_decide]
    simp only [decide_eq_true_eq]
    omega
  obtain ⟨rest, hrest⟩ := List.takeWhile_prefix (fun p : Nat × Piece ↦ decide (p.1 < pos.toNat))
    (l := (leafPieces contents).takeWhile (fun p ↦ decide (p.1 < pos'.toNat)))
  rw [← hshorter] at hrest
  rw [positionOf_eq_foldl contents pos', ← hrest, List.map_append, List.foldl_append,
    ← positionOf_eq_foldl contents pos]
  have hle := le_foldl_advancePosition (rest.map (·.2.toChar)) ((ofBytes contents).positionOf pos)
  unfold Before
  omega

/-- A place has an offset, which is turned back into the place. -/
theorem IsPlace.offset {line col : Nat} (h : IsPlace (ofBytes contents) line col) :
    ∃ pos : Nat, (ofBytes contents).offsetOf line col = .ok pos ∧
      (ofBytes contents).positionOf pos = (line, col) := by
  obtain ⟨hline, n, hn, hcol⟩ := h
  rw [charsInLine_eq_ok hline] at hn
  cases hn
  exact ⟨_, offsetOf_eq_ok hline hcol, positionOf_of_row hline hcol⟩

/-- Places and offsets belong to each other. Every line of a buffer has a number of characters, and
each of its columns up to this number has an offset, which is turned back into the line and the
column. Of two places the one that comes first has the smaller offset. -/
theorem places_match_offsets (contents : ByteArray) :
    (∀ line < (ofBytes contents).lines, ∃ n, (ofBytes contents).charsInLine line = .ok n) ∧
    (∀ line col, IsPlace (ofBytes contents) line col →
      ∃ pos : Nat, (ofBytes contents).offsetOf line col = .ok pos ∧
        (ofBytes contents).positionOf pos = (line, col)) ∧
    ∀ line col line' col', IsPlace (ofBytes contents) line col →
      IsPlace (ofBytes contents) line' col' → Before (line, col) (line', col') →
      ∃ pos pos' : Nat, (ofBytes contents).offsetOf line col = .ok pos ∧
        (ofBytes contents).offsetOf line' col' = .ok pos' ∧ pos < pos' := by
  refine ⟨fun line h ↦ ⟨_, charsInLine_eq_ok h⟩, fun line col h ↦ h.offset, ?_⟩
  intro line col line' col' h h' hbefore
  obtain ⟨pos, hpos, hplace⟩ := h.offset
  obtain ⟨pos', hpos', hplace'⟩ := h'.offset
  refine ⟨pos, pos', hpos, hpos', Nat.not_le.mp fun hle ↦ ?_⟩
  have hmono := positionOf_mono contents (Int.ofNat_le.mpr hle)
  rw [hplace, hplace'] at hmono
  exact hmono hbefore

private theorem isPlace_cutLine {n : Nat} (hlarge : 8192 ≤ n) (hsmall : n < 16383) {col : Nat}
    (h : col ≤ 2 * n + 2) : IsPlace (ofBytes (cutLine n)) 0 col :=
  ⟨Nat.succ_pos _, _, (charsInLine_cutLine hlarge hsmall).1, h⟩

/-- The two halves of a character that is cut have places of their own. -/
theorem places_match_offsets_cutLine :
    IsPlace (ofBytes (cutLine 8192)) 0 8193 ∧ IsPlace (ofBytes (cutLine 8192)) 0 8194 ∧
      Before (0, 8193) (0, 8194) ∧
      ∃ pos pos' : Nat, (ofBytes (cutLine 8192)).offsetOf 0 8193 = .ok pos ∧
        (ofBytes (cutLine 8192)).offsetOf 0 8194 = .ok pos' ∧ pos < pos' ∧
        (ofBytes (cutLine 8192)).positionOf pos = (0, 8193) := by
  have hfirst : IsPlace (ofBytes (cutLine 8192)) 0 8193 :=
    isPlace_cutLine (Nat.le_refl 8192) (by decide) (by decide)
  have hsecond : IsPlace (ofBytes (cutLine 8192)) 0 8194 :=
    isPlace_cutLine (Nat.le_refl 8192) (by decide) (by decide)
  have hbefore : Before (0, 8193) (0, 8194) := .inr ⟨rfl, by decide⟩
  obtain ⟨-, hround, hordered⟩ := places_match_offsets (cutLine 8192)
  obtain ⟨pos, pos', hpos, hpos', hlt⟩ := hordered 0 8193 0 8194 hfirst hsecond hbefore
  obtain ⟨offset, hoffset, hback⟩ := hround 0 8193 hfirst
  obtain rfl : offset = pos := Except.ok.inj (hoffset.symm.trans hpos)
  exact ⟨hfirst, hsecond, hbefore, offset, pos', hpos, hpos', hlt, hback⟩

end Buffer

end CodeViewer
