import CodeViewer.Proofs.Text.Slices

/-!
# Reading encoded strings

Where a text is the encoding of a string, every piece of it is a character. The bytes between two
of its characters are therefore the encoding of the characters in between.
-/

namespace CodeViewer.Text

/-- The bytes of an encoded string are those of its characters. -/
theorem byteList_toUTF8 (str : String) :
    byteList str.toUTF8 = str.toList.flatMap String.utf8EncodeChar := by
  rw [← String.ofList_toList (s := str), String.toUTF8_eq_toByteArray, String.toByteArray_ofList,
    List.utf8Encode, byteList_toByteArray, String.toList_ofList]

variable {str : String} {i : Nat}

private theorem Piece.bytes_eq_of_char {p : Piece} (h : ∃ c, p = .char c) :
    p.bytes = String.utf8EncodeChar p.toChar := by
  obtain ⟨c, rfl⟩ := h
  rfl

private theorem pieceAt_of_encoded {text : ByteArray} {c : Char} {cs : List Char}
    (h : (byteList text).drop i = (c :: cs).flatMap String.utf8EncodeChar) :
    pieceAt text i = .char c := by
  have hdecode : text.utf8DecodeChar? i = some c := decode_eq_some_iff.mpr ⟨_, h⟩
  simp [pieceAt, hdecode]

private theorem exists_cons_of_encoded {text : ByteArray} {cs : List Char} (hlt : i < text.size)
    (h : (byteList text).drop i = cs.flatMap String.utf8EncodeChar) : ∃ c rest, cs = c :: rest := by
  apply List.exists_cons_of_ne_nil
  rintro rfl
  have hlength := congrArg List.length h
  simp only [List.length_drop, length_byteList, List.flatMap_nil, List.length_nil] at hlength
  omega

/-- Behind a place between two characters an encoded string goes on with encoded characters. -/
theorem Boundary.encoded (h : Boundary str.toUTF8 i) :
    ∃ cs : List Char, (byteList str.toUTF8).drop i = cs.flatMap String.utf8EncodeChar := by
  induction h with
  | start => exact ⟨str.toList, byteList_toUTF8 str⟩
  | @next i _ hlt ih =>
    obtain ⟨cs, hcs⟩ := ih
    obtain ⟨c, rest, rfl⟩ := exists_cons_of_encoded hlt hcs
    have hdrop := byteList_drop hlt
    refine ⟨rest, ?_⟩
    rw [hcs, pieceAt_of_encoded hcs, List.flatMap_cons] at hdrop
    rw [pieceAt_of_encoded hcs]
    exact (List.append_cancel_left hdrop).symm

private theorem Boundary.exists_char (h : Boundary str.toUTF8 i) (hlt : i < str.toUTF8.size) :
    ∃ c, pieceAt str.toUTF8 i = .char c := by
  obtain ⟨cs, hcs⟩ := h.encoded
  obtain ⟨c, rest, rfl⟩ := exists_cons_of_encoded hlt hcs
  exact ⟨c, pieceAt_of_encoded hcs⟩

namespace Source

/-- A character is that of the piece at its offset. -/
theorem getElem?_chars {text : ByteArray} {k : Nat} (hk : k < (ofText text).size) :
    (ofText text).chars[k]? = some (pieceAt text ((ofText text).offset k)).toChar := by
  have hlt : k < (pieces text).size := by simpa [ofText, size] using hk
  have hmem : (pieces text)[k] ∈ (pieces text).toList := by simp
  obtain ⟨-, -, -, hpiece⟩ := (pieces_laid text).mem hmem
  have hoffset : (ofText text).offset k = (pieces text)[k].1 := by
    simp [ofText, offset, Array.getElem?_push, hlt, Nat.ne_of_lt hlt]
  rw [hoffset, ← hpiece]
  simp [ofText, hlt]

private theorem byteList_slice_succ {text : ByteArray} {k : Nat} (hk : k < (ofText text).size) :
    byteList ((ofText text).slice k (k + 1)) =
      (pieceAt text ((ofText text).offset k)).bytes := by
  have hdrop := byteList_drop (offset_lt_size text k hk)
  rw [slice, byteList_extract, offset_succ text k hk, Nat.add_sub_cancel_left]
  change ((byteList text).drop ((ofText text).offset k)).take _ = _
  rw [hdrop, List.take_left' (Piece.length_bytes _)]

/-- The bytes between two characters of an encoded string encode the characters in between. -/
theorem slice_toUTF8 (str : String) {start stop : Nat} (hle : start ≤ stop)
    (hstop : stop ≤ (ofText str.toUTF8).size) :
    (ofText str.toUTF8).slice start stop =
      (String.ofList ((ofText str.toUTF8).chars.extract start stop).toList).toUTF8 := by
  apply byteList_inj.mp
  rw [byteList_toUTF8, String.toList_ofList]
  induction hle with
  | refl => simp [slice]
  | @step stop hle ih =>
    have hlt : stop < (ofText str.toUTF8).size := hstop
    have hbefore : (ofText str.toUTF8).offset start ≤ (ofText str.toUTF8).offset stop := by
      rcases Nat.eq_or_lt_of_le hle with rfl | hlt'
      · exact Nat.le_refl _
      · exact Nat.le_of_lt (offset_lt_offset str.toUTF8 hlt' (Nat.le_of_lt hlt))
    have hbehind := offset_lt_offset str.toUTF8 (Nat.lt_succ_self stop) hlt
    have hsplit : (ofText str.toUTF8).slice start (stop + 1) =
        (ofText str.toUTF8).slice start stop ++ (ofText str.toUTF8).slice stop (stop + 1) :=
      ByteArray.extract_eq_extract_append_extract _ hbefore (Nat.le_of_lt hbehind)
    have hextract : ((ofText str.toUTF8).chars.extract start (stop + 1)).toList =
        ((ofText str.toUTF8).chars.extract start stop).toList ++
          [(pieceAt str.toUTF8 ((ofText str.toUTF8).offset stop)).toChar] := by
      have hlast := getElem?_chars hlt
      rw [← Array.getElem?_toList] at hlast
      rw [Array.toList_extract, Array.toList_extract, List.extract, List.extract,
        Nat.sub_add_comm hle, List.take_add_one, List.getElem?_drop, Nat.add_sub_cancel' hle, hlast]
      rfl
    have hchar := (boundary_offset str.toUTF8 stop (Nat.le_of_lt hlt)).exists_char
      (offset_lt_size str.toUTF8 stop hlt)
    rw [hsplit, byteList_append, ih (Nat.le_of_lt hlt), byteList_slice_succ hlt, hextract,
      List.flatMap_append, List.flatMap_singleton, Piece.bytes_eq_of_char hchar]

end Source

end CodeViewer.Text
