import CodeViewer.Proofs.Text.Slices

/-!
# Cutting a text into lines

A line ends behind a line feed. It does not matter whether the bytes of a text are cut into lines
or what is read from them: a line feed is a single byte, which is part of no other character.
-/

namespace CodeViewer.Text

/-! ### Lines of a list -/

section Lines

variable {α β : Type}

/-- Cut a list behind every element that ends a line. There is always a last line, which no element
ends and which may be empty. -/
def linesOf (ends : α → Bool) : List α → List (List α)
  | [] => [[]]
  | a :: as => if ends a then [a] :: linesOf ends as else (linesOf ends as).modifyHead (a :: ·)

variable (ends : α → Bool)

/-- An element that ends a line is a line of its own in front of the others. -/
theorem linesOf_cons_of_pos {a : α} (h : ends a) (as : List α) :
    linesOf ends (a :: as) = [a] :: linesOf ends as := if_pos h

/-- Any other element belongs to the first of the lines behind it. -/
theorem linesOf_cons_of_neg {a : α} (h : ¬ ends a) (as : List α) :
    linesOf ends (a :: as) = (linesOf ends as).modifyHead (a :: ·) := if_neg h

/-- There is always a line, which may be empty. -/
theorem linesOf_ne_nil (as : List α) : linesOf ends as ≠ [] := by
  induction as with
  | nil => exact List.cons_ne_nil _ _
  | cons a as ih =>
    unfold linesOf
    split
    · exact List.cons_ne_nil _ _
    · rwa [ne_eq, List.modifyHead_eq_nil_iff]

/-- Nothing is lost. -/
theorem flatten_linesOf (as : List α) : (linesOf ends as).flatten = as := by
  induction as with
  | nil => rfl
  | cons a as ih =>
    unfold linesOf
    split
    · rw [List.flatten_cons, ih, List.singleton_append]
    · obtain ⟨l, ls, hl⟩ := List.exists_cons_of_ne_nil (linesOf_ne_nil ends as)
      rw [hl, List.modifyHead_cons, List.flatten_cons, List.cons_append, ← List.flatten_cons, ← hl,
        ih]

/-- There is one line more than there are ends of lines. -/
theorem length_linesOf (as : List α) : (linesOf ends as).length = as.countP ends + 1 := by
  induction as with
  | nil => rfl
  | cons a as ih =>
    unfold linesOf
    split
    · next h => rw [List.length_cons, ih, List.countP_cons_of_pos h]
    · next h => rw [List.length_modifyHead, ih, List.countP_cons_of_neg h]

/-- What comes before the first end of a line belongs to the first line. -/
theorem linesOf_append {as : List α} (h : ∀ a ∈ as, ¬ ends a) (bs : List α) :
    linesOf ends (as ++ bs) = (linesOf ends bs).modifyHead (as ++ ·) := by
  induction as with
  | nil => cases hl : linesOf ends bs <;> simp [hl]
  | cons a as ih =>
    obtain ⟨ha, has⟩ := List.forall_mem_cons.mp h
    rw [List.cons_append, linesOf, if_neg ha, ih has]
    cases linesOf ends bs <;> rfl

/-- The first line goes up to the first end of a line. -/
theorem head?_linesOf (as : List α) :
    (linesOf ends as).head? =
      some (match as.findIdx? ends with
        | some i => as.take (i + 1)
        | none => as) := by
  induction as with
  | nil => rfl
  | cons a as ih =>
    unfold linesOf
    rw [List.findIdx?_cons]
    split
    · rfl
    · rw [List.head?_modifyHead, ih]
      cases as.findIdx? ends <;> rfl

/-- The number of elements in front of a line. -/
def lineOffset (as : List α) (n : Nat) : Nat := ((linesOf ends as).take n).flatten.length

@[simp] private theorem lineOffset_zero (as : List α) : lineOffset ends as 0 = 0 := rfl

/-- An element in front of others moves the starts of their lines by one. -/
theorem lineOffset_cons (a : α) (as : List α) (n : Nat) :
    lineOffset ends (a :: as) (n + 1) =
      lineOffset ends as (if ends a then n else n + 1) + 1 := by
  unfold lineOffset
  split
  · next h => simp [linesOf_cons_of_pos ends h]
  · next h =>
    obtain ⟨l, ls, hl⟩ := List.exists_cons_of_ne_nil (linesOf_ne_nil ends as)
    simp [linesOf_cons_of_neg ends h, hl]

/-- Where a line starts that the first part of a list holds. -/
theorem lineOffset_append_left {n : Nat} {as : List α} (hn : n ≤ as.countP ends) (bs : List α) :
    lineOffset ends (as ++ bs) n = lineOffset ends as n := by
  induction as generalizing n with
  | nil =>
    obtain rfl : n = 0 := Nat.le_zero.mp hn
    rfl
  | cons a as ih =>
    cases n with
    | zero => rfl
    | succ n =>
      rw [List.countP_cons] at hn
      rw [List.cons_append, lineOffset_cons, lineOffset_cons, ih]
      split <;> simp_all

/-- Where a line starts that begins in the second part of a list. -/
theorem lineOffset_append_right {n : Nat} {as : List α} (hn : as.countP ends < n) (bs : List α) :
    lineOffset ends (as ++ bs) n =
      as.length + lineOffset ends bs (n - as.countP ends) := by
  induction as generalizing n with
  | nil => simp
  | cons a as ih =>
    obtain ⟨m, rfl⟩ := Nat.exists_eq_succ_of_ne_zero (Nat.ne_zero_of_lt hn)
    rw [List.countP_cons] at hn ⊢
    rw [List.cons_append, lineOffset_cons, List.length_cons]
    split
    · next h =>
      rw [if_pos h] at hn
      rw [ih (Nat.lt_of_succ_lt_succ hn), Nat.succ_sub_succ, Nat.add_right_comm]
    · next h =>
      rw [if_neg h, Nat.add_zero] at hn
      rw [ih hn, Nat.add_right_comm]
      rfl

/-- The lines behind the first ones are those of the rest. -/
theorem linesOf_drop {n : Nat} {as : List α} (hn : n ≤ as.countP ends) :
    linesOf ends (as.drop (lineOffset ends as n)) = (linesOf ends as).drop n := by
  induction as generalizing n with
  | nil =>
    obtain rfl : n = 0 := Nat.le_zero.mp hn
    rfl
  | cons a as ih =>
    cases n with
    | zero => rfl
    | succ n =>
      rw [List.countP_cons] at hn
      rw [lineOffset_cons, List.drop_succ_cons, linesOf]
      split
      · next h =>
        rw [if_pos h] at hn
        exact ih (Nat.le_of_succ_le_succ hn)
      · next h =>
        rw [if_neg h] at hn
        rw [ih hn]
        cases linesOf ends as <;> rfl

/-- The elements behind the last end of a line make up the last line, which goes on where more are
added. -/
theorem exists_lastLine (as : List α) :
    ∃ last, as = ((linesOf ends as).take (as.countP ends)).flatten ++ last ∧
      (∀ a ∈ last, ¬ ends a) ∧
      ∀ bs, ((linesOf ends (as ++ bs)).drop (as.countP ends)).flatten = last ++ bs := by
  have hlines := linesOf_drop ends (Nat.le_refl (as.countP ends))
  have hsplit : as = ((linesOf ends as).take (as.countP ends)).flatten ++
      as.drop (lineOffset ends as (as.countP ends)) := by
    rw [← flatten_linesOf ends (as.drop _), hlines, ← List.flatten_append, List.take_append_drop,
      flatten_linesOf]
  have hshort : lineOffset ends as (as.countP ends) ≤ as.length := by
    have hlength := congrArg List.length hsplit
    rw [List.length_append] at hlength
    exact Nat.le.intro hlength.symm
  refine ⟨as.drop (lineOffset ends as (as.countP ends)), hsplit, fun a ha hends ↦ ?_,
    fun bs ↦ ?_⟩
  · have hlength := congrArg List.length hlines
    rw [length_linesOf, List.length_drop, length_linesOf, Nat.add_sub_cancel_left,
      Nat.succ_inj, List.countP_eq_zero] at hlength
    exact hlength a ha hends
  · have hmore : as.countP ends ≤ (as ++ bs).countP ends := by
      rw [List.countP_append]
      exact Nat.le_add_right _ _
    rw [← linesOf_drop ends hmore, flatten_linesOf, lineOffset_append_left ends (Nat.le_refl _),
      List.drop_append_of_le_length hshort]

/-- Every line but the last ends with an end of a line. -/
theorem getLast?_of_mem_dropLast {as line : List α} (h : line ∈ (linesOf ends as).dropLast) :
    line.getLast?.any ends = true := by
  induction as generalizing line with
  | nil => cases h
  | cons a as ih =>
    obtain ⟨l, ls, hl⟩ := List.exists_cons_of_ne_nil (linesOf_ne_nil ends as)
    rw [hl] at ih
    by_cases ha : ends a
    · rw [linesOf_cons_of_pos ends ha, hl, List.dropLast_cons_cons] at h
      rcases List.mem_cons.mp h with rfl | h
      · simpa using ha
      · exact ih h
    · rw [linesOf_cons_of_neg ends ha, hl, List.modifyHead_cons] at h
      cases ls with
      | nil => cases h
      | cons l' ls =>
        rw [List.dropLast_cons_cons] at h ih
        rcases List.mem_cons.mp h with rfl | h
        · have hlast := ih List.mem_cons_self
          cases l with
          | nil => cases hlast
          | cons b l => rwa [List.getLast?_cons_cons]
        · exact ih (List.mem_cons_of_mem _ h)

/-- Nothing ends the last line. -/
theorem not_ends_of_mem_getLast? {as line : List α} (h : (linesOf ends as).getLast? = some line)
    {a : α} (ha : a ∈ line) : ¬ ends a := by
  induction as generalizing line with
  | nil =>
    obtain rfl : [] = line := Option.some.inj h
    cases ha
  | cons b as ih =>
    obtain ⟨l, ls, hl⟩ := List.exists_cons_of_ne_nil (linesOf_ne_nil ends as)
    rw [hl] at ih
    by_cases hb : ends b
    · rw [linesOf_cons_of_pos ends hb, hl, List.getLast?_cons_cons] at h
      exact ih h ha
    · rw [linesOf_cons_of_neg ends hb, hl, List.modifyHead_cons] at h
      cases ls with
      | nil =>
        obtain rfl : b :: l = line := Option.some.inj h
        rcases List.mem_cons.mp ha with rfl | ha
        · exact hb
        · exact ih rfl ha
      | cons l' ls =>
        rw [List.getLast?_cons_cons] at h ih
        exact ih h ha

/-- Lines are mapped one by one. -/
theorem linesOf_map (ends' : β → Bool) (f : α → β) (as : List α) :
    linesOf ends' (as.map f) = (linesOf (fun a ↦ ends' (f a)) as).map (·.map f) := by
  induction as with
  | nil => rfl
  | cons a as ih =>
    rw [List.map_cons, linesOf, linesOf, ih]
    split
    · rfl
    · cases linesOf (fun a ↦ ends' (f a)) as <;> rfl

/-- Lines are mapped one by one by a function that makes ends of lines from ends of lines only. -/
theorem linesOf_flatMap {ends' : β → Bool} {f : α → List β} {as : List α}
    (hend : ∀ a ∈ as, ends a → ∃ b, f a = [b] ∧ ends' b)
    (hno : ∀ a ∈ as, ¬ ends a → ∀ b ∈ f a, ¬ ends' b) :
    linesOf ends' (as.flatMap f) = (linesOf ends as).map (·.flatMap f) := by
  induction as with
  | nil => rfl
  | cons a as ih =>
    obtain ⟨ha, has⟩ := List.forall_mem_cons.mp hend
    obtain ⟨hn, hns⟩ := List.forall_mem_cons.mp hno
    rw [List.flatMap_cons]
    by_cases h : ends a
    · obtain ⟨b, hb, hends⟩ := ha h
      rw [hb, List.singleton_append, linesOf, linesOf, if_pos h, if_pos hends, ih has hns]
      simp [hb]
    · rw [linesOf_append ends' (hn h), ih has hns, linesOf, if_neg h]
      obtain ⟨l, ls, hl⟩ := List.exists_cons_of_ne_nil (linesOf_ne_nil ends as)
      rw [hl]
      rfl

end Lines

/-! ### Lines of a text -/

/-- Whether a byte ends a line. -/
def feedByte (b : UInt8) : Bool := b == 0x0a

/-- Whether a piece ends a line. -/
def feedPiece (p : Nat × Piece) : Bool := p.2 == .char '\n'

/-- Ends of lines are told by the characters shown for pieces. -/
theorem feedPiece_eq (p : Nat × Piece) : feedPiece p = (p.2.toChar == '\n') := by
  have h := Piece.toChar_eq_iff (p := p.2) (c := '\n') (by decide)
  rw [Bool.eq_iff_iff, feedPiece, beq_iff_eq, beq_iff_eq, h]

/-- What is read from a text, line by line. -/
def pieceLines (text : ByteArray) : List (List (Nat × Piece)) :=
  linesOf feedPiece (pieces text).toList

/-- The bytes of a text are cut into lines where what is read from them is. -/
theorem linesOf_byteList (text : ByteArray) :
    linesOf feedByte (byteList text) =
      (pieceLines text).map (·.flatMap (·.2.bytes)) := by
  have hbytes : byteList text = (pieces text).toList.flatMap (·.2.bytes) := by
    have h := (pieces_laid text).byteList_drop
    rwa [List.drop_zero, List.drop_of_length_le (Nat.le_of_eq (length_byteList text)),
      List.append_nil] at h
  rw [hbytes]
  refine linesOf_flatMap feedPiece (fun p hp hend ↦ ?_) (fun p hp hno b hb hfeed ↦ ?_)
  · refine ⟨0x0a, ?_, rfl⟩
    rw [eq_of_beq hend]
    decide
  · obtain ⟨-, -, hlt, hpiece⟩ := (pieces_laid text).mem hp
    rw [hpiece] at hb
    rw [eq_of_beq hfeed] at hb
    have hread := (mem_bytes_pieceAt (c := '\n') (by decide) hlt).mp hb
    exact hno (beq_iff_eq.mpr (hpiece.trans hread))

/-- A line starts between two characters, and the pieces of a text from there on are those of the
line and the lines behind it. -/
theorem laid_lines (text : ByteArray) (n : Nat) :
    Boundary text (lineOffset feedByte (byteList text) n) ∧
      Laid text (lineOffset feedByte (byteList text) n) ((pieceLines text).drop n).flatten
        text.size := by
  have hparts : (pieces text).toList =
      ((pieceLines text).take n).flatten ++ ((pieceLines text).drop n).flatten := by
    rw [← List.flatten_append, List.take_append_drop]
    exact (flatten_linesOf _ _).symm
  have hlaid := pieces_laid text
  rw [hparts, Laid.append_iff] at hlaid
  obtain ⟨start, hbefore, hafter⟩ := hlaid
  have hstart : lineOffset feedByte (byteList text) n = start := by
    have hbytes : ((linesOf feedByte (byteList text)).take n).flatten =
        ((pieceLines text).take n).flatten.flatMap (·.2.bytes) := by
      rw [linesOf_byteList, ← List.map_take]
      simp only [List.flatMap, List.map_flatten, List.flatten_flatten, List.map_map,
        Function.comp_def]
    rw [lineOffset, hbytes, hbefore.length_bytes, Nat.sub_zero]
  rw [hstart]
  exact ⟨hbefore.boundary .start, hafter⟩

/-! ### Lines without their delimiters -/

/-- A line without its delimiter, which is a line feed and a carriage return in front of it. -/
def withoutDelimiter (line : List (Nat × Piece)) : List (Nat × Piece) :=
  if line.getLast?.any feedPiece then
    let row := line.dropLast
    if row.getLast?.any (·.2 == .char '\r') then row.dropLast else row
  else line

/-- A line loses its delimiter at its end. -/
theorem withoutDelimiter_prefix (line : List (Nat × Piece)) : withoutDelimiter line <+: line := by
  unfold withoutDelimiter
  split
  · simp only
    split
    · exact (List.dropLast_prefix _).trans (List.dropLast_prefix _)
    · exact List.dropLast_prefix _
  · exact List.prefix_rfl

/-- Behind an end of a line there is nothing on the line. -/
theorem not_ends_of_mem_dropLast {α : Type} {ends : α → Bool} {as line : List α}
    (hline : line ∈ linesOf ends as) {a : α} (ha : a ∈ line.dropLast) : ¬ ends a := by
  induction as generalizing line with
  | nil =>
    rw [linesOf, List.mem_singleton] at hline
    subst hline
    cases ha
  | cons b as ih =>
    by_cases h : ends b
    · rw [linesOf_cons_of_pos ends h] at hline
      rcases List.mem_cons.mp hline with rfl | hline
      · cases ha
      · exact ih hline ha
    · rw [linesOf_cons_of_neg ends h] at hline
      obtain ⟨l, ls, hl⟩ := List.exists_cons_of_ne_nil (linesOf_ne_nil ends as)
      rw [hl, List.modifyHead_cons] at hline
      rw [hl] at ih
      rcases List.mem_cons.mp hline with rfl | hline
      · cases l with
        | nil => cases ha
        | cons c l =>
          rw [List.dropLast_cons_cons] at ha
          rcases List.mem_cons.mp ha with rfl | ha
          · exact h
          · exact ih List.mem_cons_self ha
      · exact ih (List.mem_cons_of_mem _ hline) ha

/-- Without its delimiter a line has no line feed. -/
theorem feedPiece_eq_false {text : ByteArray} {line : List (Nat × Piece)}
    (hline : line ∈ pieceLines text) {p : Nat × Piece} (hp : p ∈ withoutDelimiter line) :
    feedPiece p = false := by
  rw [← Bool.not_eq_true]
  unfold withoutDelimiter at hp
  split at hp
  · refine not_ends_of_mem_dropLast hline ?_
    simp only at hp
    split at hp
    · exact (List.dropLast_prefix _).mem hp
    · exact hp
  · next hlast =>
    rcases List.eq_nil_or_concat line with rfl | ⟨front, q, rfl⟩
    · cases hp
    · rw [List.concat_eq_append] at hline hp hlast
      rw [List.getLast?_concat] at hlast
      rcases List.mem_append.mp hp with hp | hp
      · refine not_ends_of_mem_dropLast hline ?_
        rwa [List.dropLast_concat]
      · rw [List.mem_singleton.mp hp]
        exact hlast

/-- What lies between two places ends with a character of one byte exactly if its last byte is this
byte. -/
theorem Laid.byteAt_last {text : ByteArray} {front : List (Nat × Piece)} {p : Nat × Piece}
    {i k : Nat} {c : Char} (hc : c.utf8Size = 1) (h : Laid text i (front ++ [p]) k) :
    byteAt text (k - 1) = c.val.toUInt8 ↔ p.2 = .char c := by
  obtain ⟨j, -, hlast⟩ := Laid.append_iff.mp h
  obtain ⟨rfl, hlt, hp, hend⟩ := hlast
  obtain rfl : p.1 + p.2.size = k := hend
  have hread := mem_bytes_pieceAt hc hlt
  rw [← hp] at hread
  have hpos := p.2.size_pos
  have hfits : p.1 + p.2.size ≤ text.size := hp ▸ pieceAt_fits text _ hlt
  have hdrop := Text.byteList_drop hlt
  rw [← hp] at hdrop
  have hbyte : p.2.bytes[p.2.size - 1]? = some (byteAt text (p.1 + p.2.size - 1)) := by
    have hget : ((byteList text).drop p.1)[p.2.size - 1]? =
        some (byteAt text (p.1 + p.2.size - 1)) := by
      rw [List.getElem?_drop]
      have hcons := byteList_drop_eq_cons (show p.1 + p.2.size - 1 < text.size by omega)
      have hhead := congrArg List.head? hcons
      rw [List.head?_drop] at hhead
      rwa [Nat.add_sub_assoc hpos] at hhead ⊢
    rwa [hdrop, List.getElem?_append_left (by rw [Piece.length_bytes]; omega)] at hget
  rw [← hread]
  constructor
  · intro he
    exact he ▸ List.mem_of_getElem? hbyte
  · intro hmem
    have hchar := hread.mp hmem
    have hsize : p.2.size = 1 := by
      rw [hchar]
      exact hc
    rw [hsize, hchar, Piece.bytes, String.utf8EncodeChar_eq_singleton hc] at hbyte
    rw [hsize]
    exact (Option.some.inj hbyte).symm

end CodeViewer.Text
