import CodeViewer.Proofs.Text.Pieces

/-!
# Reading a part of a text

What is read at a place depends only on the bytes the piece there takes. A part of a text that
starts and ends between two characters is therefore read as it is read within the whole, and a
character of one byte is read wherever this byte stands.
-/

namespace CodeViewer.Text

/-! ### The bytes of a text -/

/-- The bytes of a text as a list. -/
def byteList (text : ByteArray) : List UInt8 := text.data.toList

/-- The empty text has no bytes. -/
@[simp] theorem byteList_empty : byteList ByteArray.empty = [] := rfl

/-- A text has as many bytes as its size says. -/
@[simp] theorem length_byteList (text : ByteArray) : (byteList text).length = text.size := rfl

/-- The bytes of two texts, one behind the other. -/
@[simp] theorem byteList_append (a b : ByteArray) :
    byteList (a ++ b) = byteList a ++ byteList b := by
  simp [byteList]

/-- A text made of bytes has these bytes. -/
@[simp] theorem byteList_toByteArray (bytes : List UInt8) : byteList bytes.toByteArray = bytes :=
  List.toList_data_toByteArray

/-- The bytes of a part of a text. -/
theorem byteList_extract (text : ByteArray) (i k : Nat) :
    byteList (text.extract i k) = ((byteList text).drop i).take (k - i) := by
  simp [byteList, ByteArray.data_extract, Array.toList_extract, List.extract]

/-- A text is made up of its bytes. -/
theorem byteList_inj {a b : ByteArray} : byteList a = byteList b ↔ a = b := by
  unfold byteList
  rw [Array.toList_inj]
  exact ⟨ByteArray.ext, fun h ↦ h ▸ rfl⟩

/-- The bytes from a place inside a text on begin with the one there. -/
theorem byteList_drop_eq_cons {text : ByteArray} {i : Nat} (h : i < text.size) :
    (byteList text).drop i = byteAt text i :: (byteList text).drop (i + 1) := by
  have hi : i < (byteList text).length := h
  rw [List.drop_eq_getElem_cons hi]
  simp [byteAt, h, byteList, ByteArray.getElem_eq_getElem_data]

/-- A byte of a text is the one that stands there. -/
theorem getElem?_byteList {text : ByteArray} {i : Nat} (h : i < text.size) :
    (byteList text)[i]? = some (byteAt text i) := by
  have hhead := congrArg List.head? (byteList_drop_eq_cons h)
  rwa [List.head?_drop] at hhead

/-- The bytes a piece is read from. -/
def Piece.bytes : Piece → List UInt8
  | .char c => String.utf8EncodeChar c
  | .stray b => [b]

/-- A piece has as many bytes as its size says. -/
@[simp] theorem Piece.length_bytes (p : Piece) : p.bytes.length = p.size := by
  cases p with
  | char c => exact String.length_utf8EncodeChar c
  | stray b => rfl

/-- Only a character is shown as itself. -/
theorem Piece.toChar_eq_iff {p : Piece} {c : Char} (hc : c ≠ replacement) :
    p.toChar = c ↔ p = .char c := by
  cases p with
  | char d => exact ⟨fun h ↦ congrArg Piece.char h, fun h ↦ Piece.char.inj h⟩
  | stray b =>
    constructor
    · intro h
      exact absurd h.symm hc
    · intro h
      cases h

/-! ### What is read at one place -/

variable {text : ByteArray} {i k : Nat}

/-- A character is read exactly where its bytes stand. -/
theorem decode_eq_some_iff {c : Char} :
    text.utf8DecodeChar? i = some c ↔
      ∃ rest, (byteList text).drop i = String.utf8EncodeChar c ++ rest := by
  have hdrop : byteList (text.extract i text.size) = (byteList text).drop i := by
    rw [byteList_extract, List.take_of_length_le]
    simp
  rw [ByteArray.utf8DecodeChar?_eq_utf8DecodeChar?_extract, ← hdrop]
  constructor
  · intro h
    obtain ⟨rest, hrest⟩ := ByteArray.exists_of_utf8DecodeChar?_eq_some h
    exact ⟨byteList rest, by rw [hrest, byteList_append, byteList_toByteArray]⟩
  · rintro ⟨rest, hrest⟩
    have he : text.extract i text.size =
        (String.utf8EncodeChar c).toByteArray ++ rest.toByteArray := by
      apply byteList_inj.mp
      simpa using hrest
    rw [he]
    exact ByteArray.utf8DecodeChar?_utf8EncodeChar_append

/-- The bytes from a place on are those of the piece there and those behind it. -/
theorem byteList_drop (h : i < text.size) :
    (byteList text).drop i =
      (pieceAt text i).bytes ++ (byteList text).drop (i + (pieceAt text i).size) := by
  cases hc : text.utf8DecodeChar? i with
  | some c =>
    have hp : pieceAt text i = .char c := by simp [pieceAt, hc]
    obtain ⟨rest, hrest⟩ := decode_eq_some_iff.mp hc
    rw [hp, ← List.drop_drop, hrest, Piece.bytes, Piece.size, List.drop_left' ?_]
    exact String.length_utf8EncodeChar c
  | none =>
    have hp : pieceAt text i = .stray (byteAt text i) := by simp [pieceAt, hc]
    rw [hp]
    exact byteList_drop_eq_cons h

private theorem decode_extract {a : Nat} (ha : a ≤ i)
    (hfits : ∀ c, text.utf8DecodeChar? i = some c → i + c.utf8Size ≤ k) :
    (text.extract a k).utf8DecodeChar? (i - a) = text.utf8DecodeChar? i := by
  have hpart : (byteList (text.extract a k)).drop (i - a) =
      ((byteList text).drop i).take (k - i) := by
    rw [byteList_extract, List.drop_take, List.drop_drop, Nat.add_sub_cancel' ha]
    congr 1
    omega
  cases h : text.utf8DecodeChar? i with
  | some c =>
    obtain ⟨rest, hrest⟩ := decode_eq_some_iff.mp h
    have hlen := String.length_utf8EncodeChar c
    have hle := hfits c h
    refine decode_eq_some_iff.mpr ⟨rest.take (k - i - c.utf8Size), ?_⟩
    rw [hpart, hrest, List.take_append, List.take_of_length_le (by omega), hlen]
  | none =>
    -- A character that is read in the part is read in the whole as well.
    cases hc : (text.extract a k).utf8DecodeChar? (i - a) with
    | none => rfl
    | some c =>
      obtain ⟨rest, hrest⟩ := decode_eq_some_iff.mp hc
      rw [hpart] at hrest
      have hwhole : text.utf8DecodeChar? i = some c := by
        refine decode_eq_some_iff.mpr ⟨rest ++ ((byteList text).drop i).drop (k - i), ?_⟩
        rw [← List.append_assoc, ← hrest, List.take_append_drop]
      rw [h] at hwhole
      cases hwhole

private theorem byteAt_extract {a j : Nat} (hk : k ≤ text.size) (hj : a + j < k) :
    byteAt (text.extract a k) j = byteAt text (a + j) := by
  have hsize : j < (text.extract a k).size := by
    rw [ByteArray.size_extract]
    omega
  have hin : a + j < text.size := Nat.lt_of_lt_of_le hj hk
  simp only [byteAt, hsize, hin, dite_true, ByteArray.getElem_extract]

/-- A piece is read in a part of a text as it is read in the whole, as long as it does not reach
beyond the part. -/
theorem pieceAt_extract {a : Nat} (ha : a ≤ i) (hk : k ≤ text.size)
    (hfits : i + (pieceAt text i).size ≤ k) :
    pieceAt (text.extract a k) (i - a) = pieceAt text i := by
  have hdecode : (text.extract a k).utf8DecodeChar? (i - a) = text.utf8DecodeChar? i := by
    refine decode_extract ha fun c hc ↦ ?_
    simpa [pieceAt, hc, Piece.size] using hfits
  have hpos := (pieceAt text i).size_pos
  have hbyte := byteAt_extract (a := a) (j := i - a) hk (by omega)
  rw [Nat.add_sub_cancel' ha] at hbyte
  simp only [pieceAt, hdecode, hbyte]

/-- A character of one byte is read exactly where this byte stands. -/
theorem mem_bytes_pieceAt {c : Char} (hc : c.utf8Size = 1) (h : i < text.size) :
    c.val.toUInt8 ∈ (pieceAt text i).bytes ↔ pieceAt text i = .char c := by
  have hencode : String.utf8EncodeChar c = [c.val.toUInt8] := String.utf8EncodeChar_eq_singleton hc
  constructor
  · intro hmem
    -- No byte behind the first one of a longer character is a character by itself.
    have hfirst : ∃ rest, (pieceAt text i).bytes = c.val.toUInt8 :: rest := by
      cases hp : pieceAt text i with
      | stray b =>
        rw [hp] at hmem
        exact ⟨[], congrArg (fun b ↦ [b]) (List.mem_singleton.mp hmem).symm⟩
      | char d =>
        rw [hp] at hmem
        obtain ⟨j, hj, hbyte⟩ := List.mem_iff_getElem.mp hmem
        have hstarts : c.val.toUInt8.IsUTF8FirstByte := by
          have hbyte := UInt8.isUTF8FirstByte_getElem_zero_utf8EncodeChar (c := c)
          simpa [hencode] using hbyte
        obtain rfl : j = 0 :=
          UInt8.isUTF8FirstByte_getElem_utf8EncodeChar.mp (hbyte.symm ▸ hstarts)
        exact ⟨(Piece.char d).bytes.tail, by rw [← hbyte, List.getElem_zero, List.cons_head_tail]⟩
    obtain ⟨rest, hrest⟩ := hfirst
    have hdrop := byteList_drop h
    rw [hrest, List.cons_append] at hdrop
    have hdecode : text.utf8DecodeChar? i = some c :=
      decode_eq_some_iff.mpr ⟨_, by rw [hencode]; exact hdrop⟩
    simp [pieceAt, hdecode]
  · intro hp
    rw [hp, Piece.bytes, hencode]
    exact List.mem_singleton_self _

/-- A character of one byte is read exactly where its byte stands first. -/
theorem byteAt_eq_iff {c : Char} (hc : c.utf8Size = 1) (h : i < text.size) :
    byteAt text i = c.val.toUInt8 ↔ pieceAt text i = .char c := by
  have hdrop := byteList_drop h
  rw [byteList_drop_eq_cons h] at hdrop
  obtain ⟨b, bs, hb⟩ := List.exists_cons_of_length_pos
    ((Piece.length_bytes (pieceAt text i)).symm ▸ (pieceAt text i).size_pos)
  rw [hb, List.cons_append] at hdrop
  have hfirst : byteAt text i = b := (List.cons.inj hdrop).1
  constructor
  · intro hbyte
    rw [← mem_bytes_pieceAt hc h, hb, ← hbyte, hfirst]
    exact List.mem_cons_self
  · intro hp
    rw [hp, Piece.bytes, String.utf8EncodeChar_eq_singleton hc] at hb
    rw [hfirst, ← (List.cons.inj hb).1]

/-- An ASCII byte is read as a character by itself. -/
theorem size_pieceAt_of_ascii (hi : i < text.size) (h : byteAt text i < 0x80) :
    (pieceAt text i).size = 1 := by
  have hval : (byteAt text i).toNat < 0x80 := UInt8.lt_iff_toNat_lt.mp h
  have hvalid : (byteAt text i).toNat.isValidChar := .inl (by omega)
  have hchar : (Char.ofNat (byteAt text i).toNat).val.toNat = (byteAt text i).toNat := by
    rw [Char.ofNat, dif_pos hvalid]
    rfl
  have hone : (Char.ofNat (byteAt text i).toNat).utf8Size = 1 := by
    rw [Char.utf8Size_eq_one_iff, UInt32.le_iff_toNat_le, hchar]
    exact Nat.le_of_lt_succ hval
  have hbyte : byteAt text i = (Char.ofNat (byteAt text i).toNat).val.toUInt8 := by
    apply UInt8.toNat_inj.mp
    rw [UInt32.toNat_toUInt8, hchar]
    omega
  rw [(byteAt_eq_iff hone hi).mp hbyte]
  exact hone

/-- A byte that starts no character of several bytes is read by itself. -/
theorem size_pieceAt_of_not_first (hi : i < text.size)
    (h : ¬ (byteAt text i).IsUTF8FirstByte) : (pieceAt text i).size = 1 := by
  have hdrop := byteList_drop hi
  rw [byteList_drop_eq_cons hi] at hdrop
  cases hp : pieceAt text i with
  | stray b => rfl
  | char c =>
    obtain ⟨b, bs, hb⟩ := List.exists_cons_of_length_pos
      ((String.length_utf8EncodeChar c).symm ▸ c.utf8Size_pos)
    rw [hp, Piece.bytes, hb, List.cons_append] at hdrop
    have hfirst := UInt8.isUTF8FirstByte_getElem_zero_utf8EncodeChar (c := c)
    simp only [hb, List.getElem_cons_zero] at hfirst
    exact absurd ((List.cons.inj hdrop).1 ▸ hfirst) h

private theorem not_isUTF8FirstByte_of_inside {j : Nat} (hi : i < text.size) (hij : i < j)
    (hj : j < i + (pieceAt text i).size) : ¬ (byteAt text j).IsUTF8FirstByte := by
  have hlt : j < text.size := Nat.lt_of_lt_of_le hj (pieceAt_fits text i hi)
  have hbyte : (pieceAt text i).bytes[j - i]? = some (byteAt text j) := by
    have hdrop := congrArg (·[j - i]?) (byteList_drop hi)
    simp only [List.getElem?_drop, Nat.add_sub_cancel' (Nat.le_of_lt hij)] at hdrop
    rw [List.getElem?_append_left (by rw [Piece.length_bytes]; omega)] at hdrop
    rw [← hdrop]
    exact getElem?_byteList hlt
  cases hp : pieceAt text i with
  | stray b =>
    have hone : (pieceAt text i).size = 1 := by rw [hp]; rfl
    omega
  | char c =>
    rw [hp] at hbyte
    obtain ⟨hlength, hc⟩ := List.getElem?_eq_some_iff.mp hbyte
    rw [← hc]
    intro hfirst
    have hzero := UInt8.isUTF8FirstByte_getElem_utf8EncodeChar.mp hfirst
    omega

/-! ### Places between characters of a part -/

/-- A place between characters is one of the front part of the text. -/
theorem Boundary.extract_front (h : Boundary text i) (hik : i ≤ k) (hk : k ≤ text.size) :
    Boundary (text.extract 0 k) i := by
  induction h with
  | start => exact .start
  | @next j _ hj ih =>
    have hpos := (pieceAt text j).size_pos
    have hread := pieceAt_extract (Nat.zero_le j) hk hik
    have hsize : j < (text.extract 0 k).size := by
      rw [ByteArray.size_extract]
      omega
    rw [Nat.sub_zero] at hread
    rw [← hread]
    exact .next (ih (by omega)) hsize

/-- A place between characters is one of the back part of the text, also where this part starts
inside a character. -/
theorem Boundary.extract_back (h : Boundary text i) (hki : k ≤ i) :
    Boundary (text.extract k text.size) (i - k) := by
  induction h with
  | start =>
    rw [Nat.zero_sub]
    exact .start
  | @next j _ hj ih =>
    have hfits := pieceAt_fits text j hj
    have hsize : (text.extract k text.size).size = text.size - k := by
      rw [ByteArray.size_extract, Nat.min_self]
    rcases Nat.lt_or_ge j k with hlt | hge
    · -- The part starts with the rest of a character, each byte of which is read by itself.
      refine Boundary.start.of_ones (Nat.zero_le _) (by omega) fun m _ hm ↦ ?_
      refine size_pieceAt_of_not_first (by omega) ?_
      rw [byteAt_extract (Nat.le_refl _) (by omega)]
      exact not_isUTF8FirstByte_of_inside hj (by omega) (by omega)
    · have hread := pieceAt_extract hge (Nat.le_refl text.size) hfits
      have hnext := (ih hge).next (by omega)
      rwa [hread, ← Nat.sub_add_comm hge] at hnext

/-! ### What is read between two places -/

namespace Laid

variable {ps qs : List (Nat × Piece)} {j : Nat}

/-- Pieces that lie end to end reach from one place of the text to a later one. -/
theorem le (h : Laid text i ps k) : i ≤ k := by
  induction ps generalizing i with
  | nil => exact Nat.le_of_eq h
  | cons p ps ih =>
    obtain ⟨rfl, -, -, hrest⟩ := h
    exact Nat.le_trans (Nat.le_add_right _ _) (ih hrest)

/-- Pieces that lie end to end do so up to the end of the text. -/
theorem le_size (h : Laid text i ps k) (hi : i ≤ text.size) : k ≤ text.size := by
  induction ps generalizing i with
  | nil => exact h ▸ hi
  | cons p ps ih =>
    obtain ⟨rfl, hlt, hp, hrest⟩ := h
    exact ih hrest (hp ▸ pieceAt_fits text _ hlt)

/-- Pieces that start between two characters end there. -/
theorem boundary (h : Laid text i ps k) (hi : Boundary text i) : Boundary text k := by
  induction ps generalizing i with
  | nil => exact h ▸ hi
  | cons p ps ih =>
    obtain ⟨rfl, hlt, hp, hrest⟩ := h
    exact ih hrest (hp ▸ .next hi hlt)

/-- Every piece starts where the text before it ends and lies in the text. -/
theorem mem {p : Nat × Piece} (h : Laid text i ps k) (hp : p ∈ ps) :
    i ≤ p.1 ∧ p.1 + p.2.size ≤ k ∧ p.1 < text.size ∧ p.2 = pieceAt text p.1 := by
  induction ps generalizing i with
  | nil => cases hp
  | cons q ps ih =>
    obtain ⟨rfl, hlt, hq, hrest⟩ := h
    rcases List.mem_cons.mp hp with rfl | hp
    · exact ⟨Nat.le_refl _, hrest.le, hlt, hq⟩
    · obtain ⟨hle, hfits⟩ := ih hrest hp
      exact ⟨Nat.le_trans (Nat.le_add_right _ _) hle, hfits⟩

/-- Pieces are laid one part after the other. -/
theorem append_iff : Laid text i (ps ++ qs) k ↔ ∃ j, Laid text i ps j ∧ Laid text j qs k := by
  induction ps generalizing i with
  | nil => simp [Laid]
  | cons p ps ih => simp only [List.cons_append, Laid, ih, ← exists_and_left, and_assoc]

/-- The pieces between two places of a text are determined. -/
theorem eq (h : Laid text i ps k) (h' : Laid text i qs k) : ps = qs := by
  induction ps generalizing i qs with
  | nil =>
    cases qs with
    | nil => rfl
    | cons q qs =>
      have hle := h'.2.2.2.le
      have hpos := q.2.size_pos
      have hi : i = k := h
      omega
  | cons p ps ih =>
    cases qs with
    | nil =>
      have hle := h.2.2.2.le
      have hpos := p.2.size_pos
      have hi : i = k := h'
      omega
    | cons q qs =>
      obtain ⟨hp1, -, hp2, hrest⟩ := h
      obtain ⟨hq1, -, hq2, hrest'⟩ := h'
      obtain rfl : p = q := Prod.ext (hp1.trans hq1.symm) (hp2.trans hq2.symm)
      rw [ih hrest hrest']

/-- There are no more characters than bytes. -/
theorem length_le (h : Laid text i ps k) : ps.length ≤ k - i := by
  induction ps generalizing i with
  | nil => exact Nat.zero_le _
  | cons p ps ih =>
    obtain ⟨rfl, -, -, hrest⟩ := h
    have hle := hrest.le
    have hpos := p.2.size_pos
    have hlength := ih hrest
    rw [List.length_cons]
    omega

/-- Where characters are single bytes there are as many of them. -/
theorem length_of_ones (h : Laid text i ps k)
    (hones : ∀ j, i ≤ j → j < k → (pieceAt text j).size = 1) : ps.length = k - i := by
  induction ps generalizing i with
  | nil =>
    obtain rfl : i = k := h
    exact (Nat.sub_self i).symm
  | cons p ps ih =>
    obtain ⟨rfl, -, hp, hrest⟩ := h
    have hle := hrest.le
    have hpos := p.2.size_pos
    have hone : p.2.size = 1 := by rw [hp, hones p.1 (Nat.le_refl _) (by omega)]
    rw [List.length_cons, ih hrest fun j hj ↦ hones j (by omega)]
    omega

/-- The bytes of pieces that lie end to end are those between their ends. -/
theorem byteList_drop (h : Laid text i ps k) :
    (byteList text).drop i = ps.flatMap (·.2.bytes) ++ (byteList text).drop k := by
  induction ps generalizing i with
  | nil =>
    obtain rfl : i = k := h
    rfl
  | cons p ps ih =>
    obtain ⟨rfl, hlt, hp, hrest⟩ := h
    rw [Text.byteList_drop hlt, ← hp, ih hrest, List.flatMap_cons, List.append_assoc]

/-- Pieces that lie end to end are read from the bytes between their ends. -/
theorem length_bytes (h : Laid text i ps k) : (ps.flatMap (·.2.bytes)).length = k - i := by
  induction ps generalizing i with
  | nil =>
    obtain rfl : i = k := h
    simp
  | cons p ps ih =>
    obtain ⟨rfl, -, -, hrest⟩ := h
    have hle := hrest.le
    rw [List.flatMap_cons, List.length_append, Piece.length_bytes, ih hrest]
    omega

/-- What lies between two places is read as it is read within the whole text. -/
theorem extract {a : Nat} (h : Laid text i ps k) (ha : a ≤ i) (hi : i ≤ text.size) :
    Laid (text.extract a k) (i - a) (ps.map fun p ↦ (p.1 - a, p.2)) (k - a) := by
  induction ps generalizing i with
  | nil =>
    obtain rfl : i = k := h
    rfl
  | cons p ps ih =>
    obtain ⟨rfl, hlt, hp, hrest⟩ := h
    have hk := hrest.le_size (hp ▸ pieceAt_fits text _ hlt)
    have hfits := hrest.le
    have hpos := p.2.size_pos
    refine ⟨rfl, ?_, ?_, ?_⟩
    · simp only [ByteArray.size_extract]
      omega
    · rw [pieceAt_extract ha hk (hp ▸ hfits)]
      exact hp
    · have hrest' := ih hrest (by omega) (hp ▸ pieceAt_fits text _ hlt)
      rwa [Nat.sub_add_comm ha] at hrest'

/-- The pieces of what lies between two places are those there. -/
theorem pieces_extract (h : Laid text i ps k) (hi : i ≤ text.size) :
    (pieces (text.extract i k)).toList = ps.map fun p ↦ (p.1 - i, p.2) := by
  have hk := h.le_size hi
  have hpart := h.extract (Nat.le_refl i) hi
  have hsize : (text.extract i k).size = k - i := by
    simp only [ByteArray.size_extract]
    omega
  rw [Nat.sub_self, ← hsize] at hpart
  exact (pieces_laid _).eq hpart

/-- The characters of what lies between two places are those of the pieces there. -/
theorem chars_extract (h : Laid text i ps k) (hi : i ≤ text.size) :
    (chars (text.extract i k)).toList = ps.map (·.2.toChar) := by
  simp [chars, h.pieces_extract hi, Function.comp_def]

/-- Two places between characters cut the pieces of a text. -/
theorem split (h : Laid text i ps k) (hj : Boundary text j) (hij : i ≤ j) (hjk : j ≤ k)
    (hi : Boundary text i) : ∃ before after, ps = before ++ after ∧ Laid text i before j ∧
      Laid text j after k := by
  induction ps generalizing i with
  | nil =>
    obtain rfl : i = k := h
    obtain rfl : i = j := Nat.le_antisymm hij hjk
    exact ⟨[], [], rfl, rfl, rfl⟩
  | cons p ps ih =>
    rcases Nat.eq_or_lt_of_le hij with rfl | hlt
    · exact ⟨[], p :: ps, rfl, rfl, h⟩
    · obtain ⟨rfl, hsize, hp, hrest⟩ := h
      have hstep : p.1 + p.2.size ≤ j := hp ▸ hi.next_le hj hlt
      obtain ⟨before, after, rfl, hbefore, hafter⟩ :=
        ih hrest hstep (hp ▸ .next hi hsize)
      exact ⟨p :: before, after, rfl, ⟨rfl, hsize, hp, hbefore⟩, hafter⟩

end Laid

end CodeViewer.Text
