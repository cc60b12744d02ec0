import CodeViewer.Buffer.Basic
import CodeViewer.Proofs.Buffer.Rope

/-!
# The lines of a buffer

A buffer has the lines its text is cut into, which make up the text. A line is there whatever leaves
its bytes are spread over, and is read as it is read within the whole text.
-/

namespace CodeViewer.Buffer

open Text (byteList byteList_inj byteList_extract length_byteList linesOf lineOffset feedByte
  pieceLines Boundary Laid)

variable {contents : ByteArray} {n : Nat}

/-! ### Buffers with any leaves -/

/-- A buffer holds a text, whatever leaves its bytes are spread over. -/
def Holds (b : Buffer) (contents : ByteArray) : Prop := b.rope.Holds (byteList contents)

/-- The buffer of a text holds it. -/
theorem ofBytes_holds (contents : ByteArray) : (ofBytes contents).Holds contents :=
  Rope.ofBytes_holds contents

private theorem length_pieceLines (contents : ByteArray) :
    (pieceLines contents).length = (byteList contents).countP feedByte + 1 := by
  have hlength := Text.length_linesOf feedByte (byteList contents)
  rwa [Text.linesOf_byteList, List.length_map] at hlength

namespace Holds

variable {b : Buffer}

private theorem bytes_eq (h : b.Holds contents) : b.bytes = contents := by
  apply byteList_inj.mp
  exact (Rope.byteList_toBytes _).trans (Rope.Holds.bytes h)

private theorem size_eq (h : b.Holds contents) : b.size = contents.size :=
  Rope.Holds.size h

/-- A buffer has the lines of its text. -/
theorem lines_eq (h : b.Holds contents) : b.lines = (pieceLines contents).length := by
  have hcount := Rope.Holds.count_byte h 0 contents.size 0x0a
  rw [List.drop_zero, Nat.sub_zero, List.take_of_length_le (Nat.le_of_eq (length_byteList _)),
    List.count] at hcount
  rw [length_pieceLines, lines, h.size_eq]
  exact congrArg (· + 1) hcount

/-- A line starts behind the lines in front of it. -/
theorem lineStart_eq (h : b.Holds contents) (hn : n < (pieceLines contents).length) :
    b.lineStart n = .ok (lineOffset feedByte (byteList contents) n) := by
  have hbytes : b.rope.leaves.flatMap byteList = byteList contents := Rope.Holds.bytes h
  rw [length_pieceLines, Nat.lt_succ_iff] at hn
  have hskip := Rope.skipLines_eq_some 0 n b.rope.leaves (hbytes ▸ hn)
  rw [hbytes, Nat.zero_add] at hskip
  rw [lineStart, Int.toNat_natCast, hskip]

/-- There is no line behind the last one. -/
theorem lineStart_missing (h : b.Holds contents) (hn : (pieceLines contents).length ≤ n) :
    b.lineStart n = .error .missingLine := by
  have hbytes : b.rope.leaves.flatMap byteList = byteList contents := Rope.Holds.bytes h
  rw [length_pieceLines, Nat.succ_le_iff] at hn
  have hskip := Rope.skipLines_eq_none 0 n b.rope.leaves (hbytes ▸ hn)
  rw [lineStart, Int.toNat_natCast, hskip]

private theorem exists_line (h : b.Holds contents) (hn : n < (pieceLines contents).length) :
    ∃ bytes, b.line n = .ok bytes ∧
      (linesOf feedByte (byteList contents))[n]? = some (byteList bytes) := by
  have hcount : n ≤ (byteList contents).countP feedByte := by
    rwa [length_pieceLines, Nat.lt_succ_iff] at hn
  have hhead := Text.head?_linesOf feedByte
    ((byteList contents).drop (lineOffset feedByte (byteList contents) n))
  rw [Text.linesOf_drop feedByte hcount, List.head?_drop] at hhead
  have hfeed := Rope.Holds.charsUntil_feed h (lineOffset feedByte (byteList contents) n)
  refine ⟨_, by rw [line, h.lineStart_eq hn]; rfl, ?_⟩
  rw [hhead, Rope.Holds.byteList_slice h, hfeed]
  cases List.findIdx? feedByte
    ((byteList contents).drop (lineOffset feedByte (byteList contents) n)) with
  | some i =>
    simp only [Option.map_some]
    rw [Nat.add_assoc, Nat.add_sub_cancel_left]
  | none =>
    simp only [Option.map_none, h.size_eq]
    rw [List.take_of_length_le (by simp)]

end Holds

/-! ### The buffer of a text -/

/-- A buffer keeps its text. -/
@[simp] theorem bytes_ofBytes (contents : ByteArray) : (ofBytes contents).bytes = contents :=
  (ofBytes_holds contents).bytes_eq

/-- A buffer has as many bytes as its text. -/
@[simp] theorem size_ofBytes (contents : ByteArray) : (ofBytes contents).size = contents.size :=
  (ofBytes_holds contents).size_eq

/-- A buffer has the lines of its text. -/
theorem lines_ofBytes (contents : ByteArray) :
    (ofBytes contents).lines = (pieceLines contents).length :=
  (ofBytes_holds contents).lines_eq

/-- A line starts behind the lines in front of it. -/
theorem lineStart_ofBytes (h : n < (pieceLines contents).length) :
    (ofBytes contents).lineStart n = .ok (lineOffset feedByte (byteList contents) n) :=
  (ofBytes_holds contents).lineStart_eq h

/-- Lines in front of the first one start where it does. -/
theorem lineStart_toNat (b : Buffer) (line : Int) : b.lineStart line.toNat = b.lineStart line := by
  rw [lineStart, lineStart, Int.toNat_natCast]

/-- There is no line behind the last one. -/
theorem lineStart_eq_error (h : (pieceLines contents).length ≤ n) :
    (ofBytes contents).lineStart n = .error .missingLine :=
  (ofBytes_holds contents).lineStart_missing h

/-- A line of a buffer lies between two places of its text, where it is read as a line of the
whole text. -/
theorem line_ofBytes {line : List (Nat × Text.Piece)} (h : (pieceLines contents)[n]? = some line) :
    ∃ start stop, Boundary contents start ∧ Laid contents start line stop ∧
      (ofBytes contents).line n = .ok (contents.extract start stop) := by
  obtain ⟨hn, hline⟩ := List.getElem?_eq_some_iff.mp h
  obtain ⟨bytes, hread, hbytes⟩ := (ofBytes_holds contents).exists_line hn
  rw [Text.linesOf_byteList, List.getElem?_map, h, Option.map_some, Option.some.injEq] at hbytes
  obtain ⟨hstart, hlaid⟩ := Text.laid_lines contents n
  rw [List.drop_eq_getElem_cons hn, List.flatten_cons, hline] at hlaid
  obtain ⟨stop, hat, hafter⟩ := Laid.append_iff.mp hlaid
  refine ⟨_, stop, hstart, hat, ?_⟩
  rw [hread]
  congr 1
  apply byteList_inj.mp
  rw [byteList_extract, hat.byteList_drop, List.take_left' hat.length_bytes, hbytes]

/-! ### Counting lines and columns -/

/-- Behind a line feed the next line starts. -/
theorem advancePosition_feed (p : Nat × Nat) : advancePosition p '\n' = (p.1 + 1, 0) := rfl

/-- Behind any other character the column is one higher. -/
theorem advancePosition_of_ne {c : Char} (h : c ≠ '\n') (p : Nat × Nat) :
    advancePosition p c = (p.1, p.2 + 1) :=
  if_neg fun he ↦ h (eq_of_beq he)

/-- Characters lead to later places only. -/
theorem le_foldl_advancePosition (chars : List Char) (place : Nat × Nat) :
    place.1 < (chars.foldl advancePosition place).1 ∨
      place.1 = (chars.foldl advancePosition place).1 ∧
        place.2 ≤ (chars.foldl advancePosition place).2 := by
  induction chars generalizing place with
  | nil => exact .inr ⟨rfl, Nat.le_refl _⟩
  | cons c rest ih =>
    rw [List.foldl_cons]
    have hrest := ih (advancePosition place c)
    by_cases hc : c = '\n'
    · subst hc
      rw [advancePosition_feed] at hrest ⊢
      simp only at hrest
      omega
    · rw [advancePosition_of_ne hc] at hrest ⊢
      simp only at hrest
      omega

/-- The line reached behind characters is told by the line feeds among them. -/
theorem line_foldl_advancePosition (chars : List Char) (place : Nat × Nat) :
    (chars.foldl advancePosition place).1 = place.1 + chars.countP (· == '\n') := by
  induction chars generalizing place with
  | nil => rfl
  | cons c rest ih =>
    rw [List.foldl_cons, ih, List.countP_cons]
    by_cases hc : c = '\n'
    · subst hc
      rw [advancePosition_feed, if_pos BEq.rfl]
      simp only
      omega
    · rw [advancePosition_of_ne hc, if_neg (by simpa using hc)]
      rfl

/-! ### The lines make up the text -/

/-- The lines of a text, each with its line feed. -/
def textLines (contents : ByteArray) : List ByteArray :=
  (linesOf feedByte (byteList contents)).map List.toByteArray

private theorem length_textLines (contents : ByteArray) :
    (textLines contents).length = (pieceLines contents).length := by
  rw [textLines, List.length_map, Text.length_linesOf, length_pieceLines]

/-- The lines make up the text. -/
theorem flatMap_textLines (contents : ByteArray) :
    (textLines contents).flatMap byteList = byteList contents := by
  have hstored : (textLines contents).flatMap byteList =
      (linesOf feedByte (byteList contents)).flatten := by
    simp [textLines, List.flatMap_def, Function.comp_def]
  rw [hstored, Text.flatten_linesOf]

private theorem sum_size_textLines (contents : ByteArray) (n : Nat) :
    (((textLines contents).take n).map ByteArray.size).sum =
      lineOffset feedByte (byteList contents) n := by
  simp [textLines, lineOffset, ← List.map_take, List.length_flatten, Function.comp_def]

private theorem ends_of_mem_dropLast_textLines {row : ByteArray}
    (h : row ∈ (textLines contents).dropLast) :
    ∃ front, byteList row = front ++ [0x0a] ∧ 0x0a ∉ front := by
  rw [textLines, ← List.map_dropLast] at h
  obtain ⟨line, hline, rfl⟩ := List.mem_map.mp h
  obtain ⟨byte, hlast, hfeed⟩ := Option.any_eq_true _ _ |>.mp
    (Text.getLast?_of_mem_dropLast feedByte hline)
  obtain ⟨front, rfl⟩ := List.getLast?_eq_some_iff.mp hlast
  obtain rfl : byte = 0x0a := eq_of_beq hfeed
  refine ⟨front, Text.byteList_toByteArray _, fun hmem ↦ ?_⟩
  refine Text.not_ends_of_mem_dropLast (List.dropLast_subset _ hline) ?_ hfeed
  rwa [List.dropLast_concat]

private theorem exists_getLast?_textLines (contents : ByteArray) :
    ∃ row, (textLines contents).getLast? = some row ∧ 0x0a ∉ byteList row := by
  obtain ⟨line, hline⟩ := Option.isSome_iff_exists.mp
    (List.getLast?_isSome.mpr (Text.linesOf_ne_nil feedByte (byteList contents)))
  refine ⟨line.toByteArray, by rw [textLines, List.getLast?_map, hline]; rfl, fun hmem ↦ ?_⟩
  rw [Text.byteList_toByteArray] at hmem
  exact Text.not_ends_of_mem_getLast? feedByte hline hmem rfl

/-- A buffer has the lines of its text, one by one. -/
theorem Holds.line_eq {b : Buffer} {row : ByteArray} (h : b.Holds contents)
    (hrow : (textLines contents)[n]? = some row) : b.line n = .ok row := by
  have hn : n < (pieceLines contents).length := by
    rw [← length_textLines]
    exact (List.getElem?_eq_some_iff.mp hrow).1
  rw [textLines, List.getElem?_map] at hrow
  obtain ⟨line, hline, rfl⟩ := Option.map_eq_some_iff.mp hrow
  obtain ⟨bytes, hread, hbytes⟩ := h.exists_line hn
  rw [hread, ← byteList_inj.mp ((Text.byteList_toByteArray _).trans
    (Option.some.inj (hline.symm.trans hbytes)))]

/-- The lines of a buffer are its text, cut behind every line feed. There is always a last line,
which has no line feed; a line starts behind as many bytes as the lines in front of it have, and
only lines that are not there start nowhere. It does not matter over what leaves the bytes are
spread, nor whether they encode characters: a buffer answers by the bytes of its text alone. -/
theorem lines_partition_text (contents : ByteArray) :
    ∃ rows : List ByteArray,
      rows.flatMap byteList = byteList contents ∧
      (∀ row ∈ rows.dropLast, ∃ front, byteList row = front ++ [0x0a] ∧ 0x0a ∉ front) ∧
      (∃ row, rows.getLast? = some row ∧ 0x0a ∉ byteList row) ∧
      (ofBytes contents).Holds contents ∧
      ∀ b : Buffer, b.Holds contents →
        b.bytes = contents ∧ b.lines = rows.length ∧
        (∀ (n : Nat) row, rows[n]? = some row → b.line n = .ok row) ∧
        (∀ line : Int, line < b.lines →
          b.lineStart line = .ok ((rows.take line.toNat).map ByteArray.size).sum) ∧
        ∀ line : Int, b.lines ≤ line → b.lineStart line = .error .missingLine := by
  refine ⟨textLines contents, flatMap_textLines contents,
    fun row hrow ↦ ends_of_mem_dropLast_textLines hrow, exists_getLast?_textLines contents,
    ofBytes_holds contents, fun b h ↦ ?_⟩
  refine ⟨h.bytes_eq, h.lines_eq.trans (length_textLines contents).symm,
    fun n row hrow ↦ h.line_eq hrow, fun line hline ↦ ?_, fun line hline ↦ ?_⟩
  · have hn : line.toNat < (pieceLines contents).length := by
      have hpos : 0 < b.lines := Nat.succ_pos _
      have hlines := h.lines_eq
      omega
    rw [← lineStart_toNat, h.lineStart_eq hn, sum_size_textLines]
  · have hlines := h.lines_eq
    rw [← lineStart_toNat]
    exact h.lineStart_missing (by omega)

/-- A text with a character that is cut off in front of a line feed. -/
def cutCharacter : ByteArray := ⟨#[0x61, 0xe2, 0x82, 0x0a, 0x62]⟩

/-- The text is spread over two leaves, the first of which ends inside the character. -/
theorem lines_partition_text_cutCharacter :
    let b : Buffer := ⟨.node 5 (.leaf ⟨#[0x61, 0xe2]⟩) (.leaf ⟨#[0x82, 0x0a, 0x62]⟩)⟩
    b.Holds cutCharacter ∧ b.lines = 2 ∧ b.bytes = cutCharacter ∧
      b.lineStart 2 = .error .missingLine := by
  intro b
  have hholds : b.Holds cutCharacter := ⟨⟨rfl, trivial, trivial⟩, by decide⟩
  have hlines : b.lines = 2 := by decide +kernel
  obtain ⟨rows, -, -, -, -, hall⟩ := lines_partition_text cutCharacter
  obtain ⟨hbytes, -, -, -, hmissing⟩ := hall b hholds
  exact ⟨hholds, hlines, hbytes, hmissing 2 (by rw [hlines]; decide)⟩

end CodeViewer.Buffer
