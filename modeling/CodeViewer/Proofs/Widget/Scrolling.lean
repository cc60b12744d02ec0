import CodeViewer.Proofs.Buffer.Cursor
import CodeViewer.Proofs.Screen.Cells
import CodeViewer.Proofs.Widget.Drawing
import Mathlib.Algebra.Order.Ring.Int

/-!
# The cursor stays in sight

A view scrolls as far as it takes to show its cursor, line by line and cell by cell. Where it has no
room it may scroll too far, but never by much, and it comes back to the cursor once there is room.

Coordinates are numbers of 64 bits, and sums of them come back at the other end of their range. The
sizes of texts and screens are below 2⁶⁰, far beyond what a machine holds, so that no sum does.
-/

namespace CodeViewer

open Text (pieceLines withoutDelimiter)

/-- A place is in sight in a window of `room` from `scroll` on, if the window has room; if it has
not, it is not scrolled far behind the place. -/
structure InSight (place scroll room : Int) : Prop where
  nonneg : 0 ≤ scroll
  near : scroll ≤ place + 32
  first : 1 ≤ room → scroll ≤ place
  last : 1 ≤ room → place < scroll + room

namespace CodeView

/-- Wherever a window was scrolled to, scrolling to a place brings it in sight. -/
theorem scrollFor_inSight {place scroll room : Int} (hplace : 0 ≤ place)
    (hlimit : place < 2 ^ 62) (hscroll : 0 ≤ scroll) (hnear : scroll ≤ 2 ^ 62 + 32)
    (hroom : -31 ≤ room) (hsize : room < 2 ^ 60) :
    InSight place (scrollFor place scroll room) room := by
  unfold scrollFor
  rw [wrap_eq (by omega) (by omega), wrap_eq (by omega) (by omega)]
  split
  · next hbehind => exact ⟨by omega, by omega, fun _ ↦ by omega, fun _ ↦ by omega⟩
  · next hbehind =>
    split
    · exact ⟨by omega, by omega, fun _ ↦ by omega, fun _ ↦ by omega⟩
    · exact ⟨by omega, by omega, fun _ ↦ by omega, fun _ ↦ by omega⟩

/-! ### The room characters take -/

variable {cv cv' : CodeView} {contents : ByteArray} {line : Int}

/-- No character takes less than no cells. -/
theorem charWidth_nonneg (htab : 0 ≤ cv.tabSize) (c : Char) : 0 ≤ cv.charWidth c := by
  unfold charWidth
  split
  · exact htab
  · split
    · omega
    · exact Int.natCast_nonneg _

/-- No character takes more cells than a tab. -/
theorem charWidth_le (htab : cv.tabSize = 4) (c : Char) : cv.charWidth c ≤ 4 := by
  have hcells : Unicode.cellWidth c ≤ 2 := by
    unfold Unicode.cellWidth
    grind
  unfold charWidth
  split
  · omega
  · split
    · omega
    · omega

/-- Characters take at most four cells each. -/
theorem foldl_charWidth_bounds (htab : cv.tabSize = 4) {cells : Int} (hcells : 0 ≤ cells)
    {chars : List Char} (hlimit : cells + 4 * chars.length < 9223372036854775808) :
    cells ≤ chars.foldl (fun cells c ↦ wrap (cells + cv.charWidth c)) cells ∧
      chars.foldl (fun cells c ↦ wrap (cells + cv.charWidth c)) cells ≤
        cells + 4 * chars.length := by
  induction chars generalizing cells with
  | nil =>
    simp only [List.foldl_nil, List.length_nil]
    omega
  | cons c rest ih =>
    have hnonneg : 0 ≤ cv.charWidth c := charWidth_nonneg (by omega) c
    have hle := charWidth_le htab c
    rw [List.length_cons] at hlimit ⊢
    rw [List.foldl_cons, wrap_eq (by omega) (by omega)]
    have hrest := ih (show 0 ≤ cells + cv.charWidth c by omega) (by omega)
    omega

/-- The characters of a line that is there are read. -/
theorem lineChars_succeeds (hbuffer : cv.buffer = Buffer.ofBytes contents)
    (hline : line < cv.buffer.lines) :
    ∃ chars, cv.lineChars line = .ok chars ∧ chars.length ≤ contents.size := by
  have hsame : cv.lineChars line.toNat = cv.lineChars line := by
    simp only [lineChars, Buffer.line, Buffer.lineStart_toNat]
  have hpos := cv.buffer.lines_pos
  rw [hbuffer, Buffer.lines_ofBytes] at hline hpos
  have hread := List.getElem?_eq_getElem (show line.toNat < (pieceLines contents).length by omega)
  refine ⟨_, hsame.symm.trans (lineChars_eq hbuffer hread), ?_⟩
  rw [List.length_map]
  refine (Text.withoutDelimiter_prefix _).length_le.trans ?_
  refine (List.sublist_flatten_of_mem (List.mem_of_getElem? hread)).length_le.trans ?_
  rw [pieceLines, Text.flatten_linesOf]
  exact (Text.pieces_laid contents).length_le

/-- The cells in front of a column are counted. -/
theorem visualCol_succeeds (hbuffer : cv.buffer = Buffer.ofBytes contents) (htab : cv.tabSize = 4)
    (hsize : contents.size < 2 ^ 60) (hline : line < cv.buffer.lines) (col : Nat) :
    Succeeds (cv.visualCol line col) fun vcol ↦ 0 ≤ vcol ∧ vcol < 2 ^ 62 := by
  obtain ⟨chars, hchars, hlength⟩ := lineChars_succeeds hbuffer hline
  have htake : (chars.take col).length ≤ chars.length := by
    rw [List.length_take]
    exact Nat.min_le_right _ _
  have hlimit : 0 + 4 * ((chars.take col).length : Int) < 9223372036854775808 := by omega
  have hbounds := foldl_charWidth_bounds htab (Int.le_refl 0) hlimit
  rw [visualCol, hchars]
  refine .of_ok ?_
  rw [textWidth]
  omega

/-- A text has no more lines than bytes, but for one. -/
theorem lines_le (hbuffer : cv.buffer = Buffer.ofBytes contents) :
    cv.buffer.lines ≤ contents.size + 1 := by
  rw [hbuffer, Buffer.lines_ofBytes, pieceLines, Text.length_linesOf]
  have hcount := (Text.pieces contents).toList.countP_le_length (p := Text.feedPiece)
  have hlength := (Text.pieces_laid contents).length_le
  omega

/-- The column of line numbers is narrow. -/
theorem columnWidth_bounds (hbuffer : cv.buffer = Buffer.ofBytes contents)
    (hnumbers : cv.lineNumbers = true) (hsize : contents.size < 2 ^ 60) :
    3 ≤ cv.columnWidth ∧ cv.columnWidth ≤ 20 := by
  have hlines := lines_le hbuffer
  have hdigits : (toString cv.buffer.lines).length ≤ 19 := by
    change cv.buffer.lines.repr.length ≤ 19
    rw [Nat.length_repr_le_iff (by decide)]
    omega
  rw [columnWidth, if_pos hnumbers]
  omega

/-! ### Scrolling to the cursor -/

/-- A view shows the line and the column of its cursor, as far as it has room. -/
structure CursorInSight (cv : CodeView) : Prop where
  row : InSight cv.cursor.line cv.scrollY cv.bounds.height
  col : ∀ {vcol}, cv.visualCol cv.cursor.line cv.cursor.col = .ok vcol →
    InSight vcol cv.scrollX (cv.bounds.width - cv.columnWidth)

/-- A view that shows its cursor is not scrolled out of the range of coordinates. -/
theorem CursorInSight.scroll_bounds (h : cv.CursorInSight)
    (hbuffer : cv.buffer = Buffer.ofBytes contents) (htab : cv.tabSize = 4)
    (hsize : contents.size < 2 ^ 60) (hline : cv.cursor.line < cv.buffer.lines) :
    (0 ≤ cv.scrollX ∧ cv.scrollX ≤ 2 ^ 62 + 32) ∧ 0 ≤ cv.scrollY ∧ cv.scrollY ≤ 2 ^ 62 + 32 := by
  obtain ⟨vcol, hvcol, hnonneg, hlimit⟩ :=
    visualCol_succeeds hbuffer htab hsize (Int.ofNat_lt.mpr hline) cv.cursor.col
  have hcol := h.col hvcol
  have hlines := lines_le hbuffer
  have hx := hcol.near
  have hy := h.row.near
  exact ⟨⟨hcol.nonneg, by omega⟩, h.row.nonneg, by omega⟩

/-- Scrolling to the cursor brings it in sight, wherever the view was scrolled to. -/
theorem scrollToCursor_succeeds (hbuffer : cv.buffer = Buffer.ofBytes contents)
    (htab : cv.tabSize = 4) (hnumbers : cv.lineNumbers = true) (hsize : contents.size < 2 ^ 60)
    (hline : cv.cursor.line < cv.buffer.lines) (hwidth : 0 ≤ cv.bounds.width)
    (hwidth' : cv.bounds.width < 2 ^ 60) (hheight : -1 ≤ cv.bounds.height)
    (hheight' : cv.bounds.height < 2 ^ 60)
    (hscroll : (0 ≤ cv.scrollX ∧ cv.scrollX ≤ 2 ^ 62 + 32) ∧
      0 ≤ cv.scrollY ∧ cv.scrollY ≤ 2 ^ 62 + 32) :
    Succeeds cv.scrollToCursor fun cv' ↦
      cv' = { cv with scrollX := cv'.scrollX, scrollY := cv'.scrollY } ∧ cv'.CursorInSight := by
  obtain ⟨vcol, hvcol, hnonneg, hlimit⟩ :=
    visualCol_succeeds hbuffer htab hsize (Int.ofNat_lt.mpr hline) cv.cursor.col
  have hcolumn := columnWidth_bounds hbuffer hnumbers hsize
  have hlines := lines_le hbuffer
  rw [scrollToCursor, hvcol]
  refine .of_ok ⟨rfl, ?_, fun {vcol'} hvcol' ↦ ?_⟩
  · exact scrollFor_inSight (Int.natCast_nonneg _) (show (cv.cursor.line : Int) < 2 ^ 62 by omega)
      hscroll.2.1 hscroll.2.2 (show -31 ≤ cv.bounds.height by omega) hheight'
  · obtain rfl : vcol = vcol' := Except.ok.inj (hvcol.symm.trans hvcol')
    simp only
    rw [wrap_eq (by omega) (by omega)]
    exact scrollFor_inSight hnonneg hlimit hscroll.1.1 hscroll.1.2
      (show -31 ≤ cv.bounds.width - cv.columnWidth by omega)
      (show cv.bounds.width - cv.columnWidth < 2 ^ 60 by omega)

end CodeView

end CodeViewer
