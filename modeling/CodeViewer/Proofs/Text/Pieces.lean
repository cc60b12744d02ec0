import CodeViewer.Text.Utf8

/-!
# Reading covers a text

The pieces read from a text lie end to end from its first byte to its last. The offsets of a
source therefore rise strictly, and each of them is a place between two characters.
-/

namespace CodeViewer.Text

/-- The places between the characters of a text, as byte offsets. A byte that belongs to no
character counts as one. -/
inductive Boundary (text : ByteArray) : Nat → Prop where
  | start : Boundary text 0
  | next {i : Nat} : Boundary text i → i < text.size →
      Boundary text (i + (pieceAt text i).size)

/-- A piece takes at least one byte. -/
theorem Piece.size_pos (p : Piece) : 0 < p.size := by
  cases p with
  | char c => exact c.utf8Size_pos
  | stray b => exact Nat.one_pos

/-- A piece that starts inside a text ends inside it. -/
theorem pieceAt_fits (text : ByteArray) (i : Nat) (h : i < text.size) :
    i + (pieceAt text i).size ≤ text.size := by
  unfold pieceAt
  split
  · next c hc => exact ByteArray.le_size_of_utf8DecodeChar?_eq_some hc
  · exact h

/-- A place between characters lies in the text. -/
theorem Boundary.le_size {text : ByteArray} {i : Nat} (h : Boundary text i) :
    i ≤ text.size := by
  cases h with
  | start => exact Nat.zero_le _
  | next _ hi => exact pieceAt_fits text _ hi

/-- Places are between characters as long as the characters there are single bytes. -/
theorem Boundary.of_ones {text : ByteArray} {i k : Nat} (hi : Boundary text i) (hik : i ≤ k)
    (hk : k ≤ text.size) (hones : ∀ j, i ≤ j → j < k → (pieceAt text j).size = 1) :
    Boundary text k := by
  induction hik with
  | refl => exact hi
  | @step k hik ih =>
    have hprev := ih (Nat.le_of_succ_le hk) fun j hj hlt ↦ hones j hj (Nat.lt_succ_of_lt hlt)
    have hnext := hprev.next hk
    rwa [hones k hik (Nat.lt_succ_self k)] at hnext

/-! ### Pieces that lie end to end -/

/-- Pieces that lie end to end from one byte of a text to another, each as it is read there. -/
def Laid (text : ByteArray) : (start : Nat) → List (Nat × Piece) → (stop : Nat) → Prop
  | i, [], k => i = k
  | i, (j, p) :: ps, k =>
    j = i ∧ i < text.size ∧ p = pieceAt text i ∧ Laid text (i + p.size) ps k

private theorem piecesFrom_laid (text : ByteArray) (fuel i : Nat) (acc : Array (Nat × Piece))
    (hi : i ≤ text.size) (hf : text.size ≤ i + fuel) :
    ∃ ps, (piecesFrom text fuel i acc).toList = acc.toList ++ ps ∧
      Laid text i ps text.size := by
  induction fuel generalizing i acc with
  | zero => exact ⟨[], by simp [piecesFrom], by simp only [Laid]; omega⟩
  | succ fuel ih =>
    unfold piecesFrom
    split
    · next hlt =>
      have hpos := (pieceAt text i).size_pos
      obtain ⟨ps, hps, hl⟩ := ih (i + (pieceAt text i).size)
        (acc.push (i, pieceAt text i)) (pieceAt_fits text i hlt) (by omega)
      refine ⟨(i, pieceAt text i) :: ps, ?_, rfl, hlt, rfl, hl⟩
      simpa using hps
    · next hge => exact ⟨[], by simp, by simp only [Laid]; omega⟩

/-- The pieces of a text lie end to end from its first byte to its last. -/
theorem pieces_laid (text : ByteArray) : Laid text 0 (pieces text).toList text.size := by
  obtain ⟨ps, hps, hl⟩ :=
    piecesFrom_laid text text.size 0 #[] (Nat.zero_le _) (by omega)
  have he : (pieces text).toList = ps := by simpa [pieces] using hps
  exact he ▸ hl

private def offsetIn (text : ByteArray) (ps : List (Nat × Piece)) (k : Nat) : Nat :=
  ((ps.map (·.1) ++ [text.size])[k]?).getD text.size

private theorem offsetIn_zero {text : ByteArray} {i : Nat} {ps : List (Nat × Piece)}
    (h : Laid text i ps text.size) : offsetIn text ps 0 = i := by
  cases ps with
  | nil => exact Eq.symm h
  | cons p ps => exact h.1

private theorem offsetIn_succ {text : ByteArray} {i : Nat} {ps : List (Nat × Piece)}
    (h : Laid text i ps text.size) (k : Nat) (hk : k < ps.length) :
    offsetIn text ps k < text.size ∧
      offsetIn text ps (k + 1) =
        offsetIn text ps k + (pieceAt text (offsetIn text ps k)).size := by
  induction ps generalizing i k with
  | nil => simp at hk
  | cons p ps ih =>
    obtain ⟨j, p⟩ := p
    obtain ⟨rfl, hlt, rfl, hl⟩ := h
    cases k with
    | zero => exact ⟨hlt, offsetIn_zero hl⟩
    | succ k => exact ih hl k (Nat.lt_of_succ_lt_succ hk)

/-! ### The offsets of a source -/

namespace Source

variable (text : ByteArray)

private theorem size_ofText : (ofText text).size = (pieces text).toList.length := by
  simp [ofText, size]

private theorem offset_ofText (k : Nat) :
    (ofText text).offset k = offsetIn text (pieces text).toList k := by
  simp [ofText, offset, offsetIn, ← Array.getElem?_toList]

/-- The first character starts at the first byte. -/
theorem offset_zero : (ofText text).offset 0 = 0 := by
  rw [offset_ofText, offsetIn_zero (pieces_laid text)]

/-- A character starts inside the text. -/
theorem offset_lt_size (k : Nat) (hk : k < (ofText text).size) :
    (ofText text).offset k < text.size := by
  rw [size_ofText] at hk
  rw [offset_ofText]
  exact (offsetIn_succ (pieces_laid text) k hk).1

/-- A character ends where the next one starts. -/
theorem offset_succ (k : Nat) (hk : k < (ofText text).size) :
    (ofText text).offset (k + 1) =
      (ofText text).offset k + (pieceAt text ((ofText text).offset k)).size := by
  rw [size_ofText] at hk
  rw [offset_ofText, offset_ofText]
  exact (offsetIn_succ (pieces_laid text) k hk).2

/-- The last character ends with the text. -/
theorem offset_size : (ofText text).offset (ofText text).size = text.size := by
  rw [size_ofText, offset_ofText, offsetIn]
  simp

/-- Every offset is a place between characters. -/
theorem boundary_offset (k : Nat) (hk : k ≤ (ofText text).size) :
    Boundary text ((ofText text).offset k) := by
  induction k with
  | zero => rw [offset_zero]; exact .start
  | succ k ih =>
    rw [offset_succ text k hk]
    exact .next (ih (Nat.le_of_lt hk)) (offset_lt_size text k hk)

/-- Offsets rise strictly. -/
theorem offset_lt_offset {i j : Nat} (hij : i < j) (hj : j ≤ (ofText text).size) :
    (ofText text).offset i < (ofText text).offset j := by
  have step (k : Nat) (hk : k < (ofText text).size) :
      (ofText text).offset k < (ofText text).offset (k + 1) := by
    rw [offset_succ text k hk]
    exact Nat.lt_add_of_pos_right (Piece.size_pos _)
  induction j with
  | zero => omega
  | succ j ih =>
    rcases Nat.lt_succ_iff_lt_or_eq.mp hij with hlt | rfl
    · exact Nat.lt_trans (ih hlt (Nat.le_of_lt hj)) (step j hj)
    · exact step i hj

/-- The end of the text is the only offset at its size. -/
theorem offset_eq_size_iff {k : Nat} (hk : k ≤ (ofText text).size) :
    (ofText text).offset k = text.size ↔ k = (ofText text).size := by
  constructor
  · intro h
    rcases Nat.lt_or_eq_of_le hk with hlt | heq
    · exact absurd h (Nat.ne_of_lt (offset_lt_size text k hlt))
    · exact heq
  · rintro rfl
    exact offset_size text

/-- Every place between characters is an offset. -/
theorem exists_offset {i : Nat} (h : Boundary text i) :
    ∃ k ≤ (ofText text).size, (ofText text).offset k = i := by
  induction h with
  | start => exact ⟨0, Nat.zero_le _, offset_zero text⟩
  | @next i hi hlt ih =>
    obtain ⟨k, hk, rfl⟩ := ih
    have hk' : k < (ofText text).size :=
      Nat.lt_of_le_of_ne hk fun he ↦ Nat.ne_of_lt hlt ((offset_eq_size_iff text hk).mpr he)
    exact ⟨k + 1, hk', offset_succ text k hk'⟩

/-! ### Excerpts -/

private theorem le_blockSize (bytes : Nat) : bytes ≤ blockSize bytes := by
  unfold blockSize
  split
  · next size h => simpa using List.find?_some h
  · simp only [pageSize]
    omega

private theorem le_storedCount (count : Nat) : count ≤ storedCount count := by
  have h := le_blockSize (4 * count)
  unfold storedCount
  omega

/-- The characters up to a place in the text are always there. -/
theorem excerpt?_of_le (src : Source) (start stop : Nat) (h : stop ≤ src.size) :
    src.excerpt? start stop = some (String.ofList (src.chars.extract start stop).toList) := by
  have hs := le_storedCount src.size
  have hz : stop - max start src.size = 0 := by omega
  simp [excerpt?, Nat.not_lt.mpr (Nat.le_trans h hs), hz]

end Source

/-- A place between characters behind another one lies behind the piece there. -/
theorem Boundary.next_le {text : ByteArray} {i j : Nat} (hi : Boundary text i)
    (hj : Boundary text j) (h : i < j) : i + (pieceAt text i).size ≤ j := by
  obtain ⟨m, hm, rfl⟩ := Source.exists_offset text hi
  obtain ⟨n, hn, rfl⟩ := Source.exists_offset text hj
  have hmn : m < n := Nat.not_le.mp fun hle ↦ by
    rcases Nat.eq_or_lt_of_le hle with rfl | hlt
    · exact Nat.lt_irrefl _ h
    · exact Nat.lt_asymm h (Source.offset_lt_offset text hlt hm)
  rw [← Source.offset_succ text m (by omega)]
  rcases Nat.eq_or_lt_of_le hmn with rfl | hlt
  · exact Nat.le_refl _
  · exact Nat.le_of_lt (Source.offset_lt_offset text hlt hn)

end CodeViewer.Text
