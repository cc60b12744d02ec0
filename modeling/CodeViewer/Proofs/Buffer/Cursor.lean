import CodeViewer.Buffer.Cursor
import CodeViewer.Proofs.Buffer.Characters

/-!
# Lines under a cursor

Every line of a buffer can be read, and every offset leads a cursor to a line of the buffer.
-/

namespace CodeViewer

open Text (byteList feedByte pieceLines)

variable {contents : ByteArray} {line : Int}

/-! ### Reading a line that is there -/

namespace Buffer

/-- A buffer has a line. -/
theorem lines_pos (b : Buffer) : 0 < b.lines := Nat.succ_pos _

/-- A line that is there starts somewhere. -/
theorem lineStart_succeeds (h : line < (ofBytes contents).lines) :
    ∃ start, (ofBytes contents).lineStart line = .ok start := by
  have hpos := (ofBytes contents).lines_pos
  rw [lines_ofBytes] at h hpos
  exact ⟨_, (lineStart_toNat _ line).symm.trans (lineStart_ofBytes (by omega))⟩

/-- A line that is there can be read. -/
theorem line_succeeds (h : line < (ofBytes contents).lines) :
    ∃ bytes, (ofBytes contents).line line = .ok bytes := by
  obtain ⟨start, hstart⟩ := lineStart_succeeds h
  exact ⟨_, by rw [Buffer.line, hstart]; rfl⟩

/-- The characters of a line that is there are counted. -/
theorem charsInLine_succeeds (h : line < (ofBytes contents).lines) :
    ∃ n, (ofBytes contents).charsInLine line = .ok n := by
  obtain ⟨start, hstart⟩ := lineStart_succeeds h
  exact ⟨_, by rw [charsInLine, hstart]; rfl⟩

/-- Every offset is on a line of the buffer. -/
theorem positionOf_lt (pos : Int) :
    ((ofBytes contents).positionOf pos).1 < (ofBytes contents).lines := by
  rw [positionOf]
  split
  · exact lines_pos _
  · have hholds : (ofBytes contents).rope.Holds (byteList contents) := Rope.ofBytes_holds contents
    obtain ⟨hchars, -⟩ := hholds.charsUntil (fun offset _ ↦ pos.toNat ≤ offset) 0
    have hfeeds := Rope.countP_feedPiece_leafwise 0 ((ofBytes contents).rope.splitAt 0).2.leaves
    have hbytes : ((ofBytes contents).rope.splitAt 0).2.leaves.flatMap byteList =
        byteList contents := (hholds.splitAt 0).2.bytes
    have hlength := Text.length_linesOf feedByte (byteList contents)
    rw [Text.linesOf_byteList, List.length_map] at hlength
    rw [lines_ofBytes, hlength, ← hbytes, ← hfeeds, ← Array.foldl_toList, hchars,
      List.foldl_map, ← List.foldl_map, line_foldl_advancePosition, Nat.zero_add,
      Nat.lt_succ_iff, List.countP_map]
    have hcount : ((· == '\n') ∘ fun p : Nat × Text.Piece ↦ (p.1, p.2.toChar).2) =
        Text.feedPiece := by
      funext p
      exact (Text.feedPiece_eq p).symm
    rw [hcount]
    exact (List.takeWhile_sublist _).countP_le

end Buffer

/-- A cursor that is moved to a byte offset is on a line of the buffer. -/
theorem Cursor.setOffset_lt (c : Cursor) (pos : Int) :
    (c.setOffset (Buffer.ofBytes contents) pos).line < (Buffer.ofBytes contents).lines :=
  Buffer.positionOf_lt pos

end CodeViewer
