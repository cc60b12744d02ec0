import CodeViewer.Proofs.Buffer.Cursor
import CodeViewer.Proofs.Buffer.Offsets

/-!
# Moving a cursor from place to place

Every motion leads from a place of a buffer to a place. One character on and one character back are
two directions of the same step between neighbours, along a line or across its end; between
neighbours there is no other place. Going on from the start therefore comes to every place, from one
to the next.
-/

namespace CodeViewer

open Buffer (ofBytes IsPlace Before)

variable {contents : ByteArray}

/-! ### Places -/

namespace Buffer

private theorem isPlace_start : IsPlace (ofBytes contents) 0 0 := by
  have hline : ((0 : Nat) : Int) < (ofBytes contents).lines := Int.ofNat_lt.mpr (lines_pos _)
  obtain ⟨n, hn⟩ := charsInLine_succeeds hline
  exact ⟨lines_pos _, n, hn, Nat.zero_le n⟩

private theorem clamp_isPlace (line col : Int) :
    Succeeds ((ofBytes contents).clamp line col) fun p ↦ IsPlace (ofBytes contents) p.1 p.2 := by
  have hpos := (ofBytes contents).lines_pos
  have hlt : min line.toNat ((ofBytes contents).lines - 1) < (ofBytes contents).lines := by omega
  obtain ⟨n, hn⟩ := charsInLine_succeeds (Int.ofNat_lt.mpr hlt)
  unfold clamp
  split
  · exact .of_ok ⟨hlt, n, hn, Nat.zero_le n⟩
  · simp only
    rw [hn]
    exact .of_ok ⟨hlt, n, hn, Nat.min_le_right _ _⟩

private theorem Before.trans {p q r : Nat × Nat} (h : Before p q) (h' : Before q r) :
    Before p r := by
  unfold Before at h h' ⊢
  omega

private theorem Before.irrefl (p : Nat × Nat) : ¬ Before p p := by
  unfold Before
  omega

private theorem mem_behind_iff {p q : Nat × Nat} {places : List (Nat × Nat)}
    (hsorted : (q :: places).Pairwise Before) : p ∈ places ↔ p ∈ q :: places ∧ Before q p := by
  constructor
  · intro hp
    exact ⟨List.mem_cons_of_mem _ hp, List.rel_of_pairwise_cons hsorted hp⟩
  · rintro ⟨hp, hafter⟩
    exact (List.mem_cons.mp hp).resolve_left fun heq ↦ Before.irrefl _ (heq ▸ hafter)

private theorem IsPlace.offset_lt {line col line' col' : Nat}
    (h : IsPlace (ofBytes contents) line col)
    (h' : IsPlace (ofBytes contents) line' col') (hbefore : Before (line, col) (line', col')) :
    ∃ pos pos', (ofBytes contents).offsetOf line col = .ok pos ∧
      (ofBytes contents).offsetOf line' col' = .ok pos' ∧ pos < pos' := by
  obtain ⟨pos, hpos, hplace⟩ := h.offset
  obtain ⟨pos', hpos', hplace'⟩ := h'.offset
  refine ⟨pos, pos', hpos, hpos', Nat.not_le.mp fun hle ↦ ?_⟩
  have hmono := positionOf_mono contents (Int.ofNat_le.mpr hle)
  rw [hplace, hplace'] at hmono
  exact hmono hbefore

/-- The places of a buffer can be listed in order. -/
theorem exists_places (contents : ByteArray) :
    ∃ places : List (Nat × Nat), (∀ p, p ∈ places ↔ IsPlace (ofBytes contents) p.1 p.2) ∧
      places.Pairwise Before := by
  refine ⟨(List.range (ofBytes contents).lines).flatMap fun line ↦
    (List.range ((row contents line).length + 1)).map (line, ·), fun p ↦ ?_, ?_⟩
  · simp only [List.mem_flatMap, List.mem_range, List.mem_map]
    constructor
    · rintro ⟨line, hline, col, hcol, rfl⟩
      exact ⟨hline, _, charsInLine_eq_ok hline, Nat.le_of_lt_succ hcol⟩
    · rintro ⟨hline, n, hn, hcol⟩
      rw [charsInLine_eq_ok hline] at hn
      cases hn
      exact ⟨p.1, hline, p.2, Nat.lt_succ_of_le hcol, rfl⟩
  · rw [List.pairwise_flatMap]
    refine ⟨fun line _ ↦ ?_, List.pairwise_lt_range.imp fun hlt p hp q hq ↦ ?_⟩
    · exact List.pairwise_lt_range.map _ fun _ _ hlt ↦ .inr ⟨rfl, hlt⟩
    · obtain ⟨_, -, rfl⟩ := List.mem_map.mp hp
      obtain ⟨_, -, rfl⟩ := List.mem_map.mp hq
      exact .inl hlt

end Buffer

namespace Cursor

variable {b : Buffer} {c c' : Cursor}

/-! ### Motions lead to places -/

/-- The nearest place to a line and column is in the buffer. -/
theorem setLineCol_isIn (c : Cursor) (line col : Int) :
    Succeeds (c.setLineCol (ofBytes contents) line col) (·.IsIn (ofBytes contents)) :=
  (Buffer.clamp_isPlace line col).bind fun _ hplace ↦ .of_ok hplace

private theorem setLineCol_eq {line col : Nat} (h : IsPlace b line col) :
    c.setLineCol b line col = .ok { c with line := line, col := col } := by
  rw [setLineCol, h.clamp_eq]
  rfl

/-- The end of a line is in the buffer. -/
theorem toEnd_isIn (h : c.line < (ofBytes contents).lines) :
    Succeeds (c.toEnd (ofBytes contents)) (·.IsIn (ofBytes contents)) := by
  obtain ⟨n, hn⟩ := Buffer.charsInLine_succeeds (Int.ofNat_lt.mpr h)
  rw [toEnd, hn]
  exact .of_ok ⟨h, n, hn, Nat.le_refl n⟩

private theorem home_isIn (h : c.IsIn b) : c.home.IsIn b := by
  obtain ⟨hline, n, hn, -⟩ := h
  exact ⟨hline, n, hn, Nat.zero_le n⟩

/-- One character back is on a line of the buffer, wherever on a line the cursor was. -/
theorem left_lt (h : c.line < (ofBytes contents).lines) :
    Succeeds (c.left (ofBytes contents)) (·.line < (ofBytes contents).lines) := by
  unfold left
  split
  · exact (toEnd_isIn (Nat.lt_of_le_of_lt (Nat.sub_le _ _) h)).imp fun _ hin ↦ hin.1
  · exact .of_ok h

private theorem left_isIn (h : c.IsIn (ofBytes contents)) :
    Succeeds (c.left (ofBytes contents)) (·.IsIn (ofBytes contents)) := by
  obtain ⟨hline, n, hn, hcol⟩ := h
  unfold left
  split
  · exact toEnd_isIn (Nat.lt_of_le_of_lt (Nat.sub_le _ _) hline)
  · exact .of_ok ⟨hline, n, hn, Nat.le_trans (Nat.sub_le _ _) hcol⟩

/-- One character on is in the buffer, wherever on a line the cursor was. -/
theorem right_isIn (h : c.line < (ofBytes contents).lines) :
    Succeeds (c.right (ofBytes contents)) (·.IsIn (ofBytes contents)) := by
  obtain ⟨n, hn⟩ := Buffer.charsInLine_succeeds (Int.ofNat_lt.mpr h)
  rw [right, hn]
  change Succeeds (if _ then _ else _) _
  split
  · exact c.setLineCol_isIn _ _
  · exact c.setLineCol_isIn _ _

/-- One line up is in the buffer. -/
theorem up_isIn (c : Cursor) : Succeeds (c.up (ofBytes contents)) (·.IsIn (ofBytes contents)) := by
  unfold up
  split
  · exact .of_ok Buffer.isPlace_start
  · exact c.setLineCol_isIn _ _

/-- One line down is in the buffer. -/
theorem down_isIn (c : Cursor) :
    Succeeds (c.down (ofBytes contents)) (·.IsIn (ofBytes contents)) := by
  unfold down
  split
  · exact c.setLineCol_isIn _ _
  · exact c.setLineCol_isIn _ _

/-! ### Neighbours -/

/-- A cursor is one character in front of another one: on the same line, or at its end while the
other one is at the start of the line below. -/
inductive Next (b : Buffer) : Cursor → Cursor → Prop where
  | along {c : Cursor} {n : Nat} : c.line < b.lines → b.charsInLine c.line = .ok n → c.col < n →
      Next b c { c with col := c.col + 1 }
  | across {c : Cursor} : c.line + 1 < b.lines → b.charsInLine c.line = .ok c.col →
      Next b c { c with line := c.line + 1, col := 0 }

/-- A cursor is at the end of the last line. -/
def AtEnd (b : Buffer) (c : Cursor) : Prop :=
  c.line + 1 = b.lines ∧ b.charsInLine c.line = .ok c.col

namespace Next

private theorem isIn (h : Next (ofBytes contents) c c') :
    c.IsIn (ofBytes contents) ∧ c'.IsIn (ofBytes contents) := by
  cases h with
  | along hline hn hcol =>
    exact ⟨⟨hline, _, hn, Nat.le_of_lt hcol⟩, hline, _, hn, hcol⟩
  | across hline hn =>
    obtain ⟨m, hm⟩ := Buffer.charsInLine_succeeds (Int.ofNat_lt.mpr hline)
    exact ⟨⟨Nat.lt_of_succ_lt hline, _, hn, Nat.le_refl _⟩, hline, m, hm, Nat.zero_le m⟩

/-- One neighbour comes before the other. -/
theorem before (h : Next b c c') : Before (c.line, c.col) (c'.line, c'.col) := by
  cases h with
  | along _ _ _ => exact .inr ⟨rfl, Nat.lt_succ_self _⟩
  | across _ _ => exact .inl (Nat.lt_succ_self _)

/-- There is no place between neighbours. -/
theorem not_before (h : Next b c c') {line col : Nat} (hplace : IsPlace b line col)
    (hfront : Before (c.line, c.col) (line, col)) : ¬ Before (line, col) (c'.line, c'.col) := by
  obtain ⟨-, m, hm, hcol⟩ := hplace
  cases h with
  | along _ _ _ =>
    unfold Before at hfront ⊢
    simp only at hfront ⊢
    omega
  | across _ hn =>
    unfold Before at hfront ⊢
    simp only at hfront ⊢
    rcases Nat.lt_or_ge c.line line with hlt | hge
    · omega
    · obtain rfl : c.line = line := by omega
      rw [hn] at hm
      cases hm
      omega

/-- One character on leads to the neighbour behind. -/
theorem right (h : Next (ofBytes contents) c c') : c.right (ofBytes contents) = .ok c' := by
  have hplace := h.isIn.2
  cases h with
  | @along n hline hn hcol =>
    have hinside : ¬ (n ≤ c.col && c.line + 1 < (ofBytes contents).lines) = true := by simp; omega
    rw [Cursor.right, hn]
    exact (if_neg hinside).trans (setLineCol_eq hplace)
  | across hline hn =>
    rw [Cursor.right, hn]
    exact (if_pos (by simpa using hline)).trans (setLineCol_eq hplace)

/-- One character back leads to the neighbour in front. -/
theorem left (h : Next b c c') : c'.left b = .ok c := by
  cases h with
  | along _ _ _ =>
    rw [Cursor.left, if_neg (by simp)]
    rfl
  | across _ hn =>
    rw [Cursor.left, if_pos (by simp), toEnd, Nat.add_sub_cancel, hn]
    rfl

end Next

/-- Behind every place but the last one there is another one. -/
theorem IsIn.exists_next (h : c.IsIn b) (hend : ¬ AtEnd b c) : ∃ c', Next b c c' := by
  obtain ⟨hline, n, hn, hcol⟩ := h
  rcases Nat.lt_or_eq_of_le hcol with hlt | rfl
  · exact ⟨_, .along hline hn hlt⟩
  · exact ⟨_, .across (Nat.lt_of_le_of_ne hline fun hlast ↦ hend ⟨hlast, hn⟩) hn⟩

/-- In front of every place but the first one there is another one. -/
theorem IsIn.exists_previous (h : c.IsIn (ofBytes contents))
    (hstart : ¬ (c.line = 0 ∧ c.col = 0)) : ∃ c', Next (ofBytes contents) c' c := by
  obtain ⟨owner, line, col⟩ := c
  obtain ⟨hline, n, hn, hcol⟩ := h
  cases col with
  | succ col => exact ⟨_, .along (c := ⟨owner, line, col⟩) hline hn hcol⟩
  | zero =>
    cases line with
    | zero => exact absurd ⟨rfl, rfl⟩ hstart
    | succ line =>
      obtain ⟨m, hm⟩ := Buffer.charsInLine_succeeds (Int.ofNat_lt.mpr (Nat.lt_of_succ_lt hline))
      exact ⟨_, .across (c := ⟨owner, line, m⟩) hline hm⟩

private theorem AtEnd.not_before (h : AtEnd b c) {line col : Nat} (hplace : IsPlace b line col) :
    ¬ Before (c.line, c.col) (line, col) := by
  obtain ⟨hlast, hn⟩ := h
  obtain ⟨hline, m, hm, hcol⟩ := hplace
  rintro (hlt | ⟨heq, hlt⟩)
  · simp only at hlt
    omega
  · obtain rfl : c.line = line := heq
    rw [hn] at hm
    cases hm
    exact absurd hcol (Nat.not_le.mpr hlt)

/-! ### Walking through a buffer -/

/-- Go on by a number of characters. -/
def walk (b : Buffer) : Nat → Cursor → Except Fault Cursor
  | 0, c => .ok c
  | n + 1, c => do walk b n (← c.right b)

private theorem Next.eq_first (h : Next (ofBytes contents) c c') {q : Nat × Nat}
    {places : List (Nat × Nat)}
    (hmem : ∀ p, p ∈ q :: places ↔
      IsPlace (ofBytes contents) p.1 p.2 ∧ Before (c.line, c.col) p)
    (hsorted : (q :: places).Pairwise Before) : c' = { c with line := q.1, col := q.2 } := by
  have hbehind : (c'.line, c'.col) ∈ q :: places := (hmem _).mpr ⟨h.isIn.2, h.before⟩
  rcases List.mem_cons.mp hbehind with rfl | hrest
  · cases h <;> rfl
  · obtain ⟨hplace, hfront⟩ := (hmem q).mp List.mem_cons_self
    exact absurd (List.rel_of_pairwise_cons hsorted hrest) (h.not_before hplace hfront)

/-- A walk comes to the places behind a cursor in their order. -/
theorem walk_eq (h : c.IsIn (ofBytes contents)) {places : List (Nat × Nat)}
    (hmem : ∀ p, p ∈ places ↔ IsPlace (ofBytes contents) p.1 p.2 ∧ Before (c.line, c.col) p)
    (hsorted : places.Pairwise Before) {k : Nat} {p : Nat × Nat}
    (hp : ((c.line, c.col) :: places)[k]? = some p) :
    c.walk (ofBytes contents) k = .ok { c with line := p.1, col := p.2 } := by
  induction places generalizing c k with
  | nil =>
    cases k with
    | zero =>
      cases hp
      rfl
    | succ k => cases hp
  | cons q places ih =>
    cases k with
    | zero =>
      cases hp
      rfl
    | succ k =>
      obtain ⟨hplace, hbehind⟩ := (hmem q).mp List.mem_cons_self
      obtain ⟨c', hnext⟩ := h.exists_next fun hend ↦ hend.not_before hplace hbehind
      obtain rfl := hnext.eq_first hmem hsorted
      rw [walk, hnext.right]
      -- The places behind the neighbour are those that are left.
      refine ih hnext.isIn.2 (fun p ↦ ?_) hsorted.of_cons hp
      rw [Buffer.mem_behind_iff hsorted, hmem]
      constructor
      · rintro ⟨⟨hin, -⟩, hafter⟩
        exact ⟨hin, hafter⟩
      · rintro ⟨hin, hafter⟩
        exact ⟨⟨hin, hbehind.trans hafter⟩, hafter⟩

/-- The places of a buffer in their order are what a walk from the start comes to. -/
theorem exists_walk (contents : ByteArray) :
    ∃ places : List (Nat × Nat), (∀ p, p ∈ places ↔ IsPlace (ofBytes contents) p.1 p.2) ∧
      places.Pairwise Before ∧ ∀ owner k p, places[k]? = some p →
        (start owner).walk (ofBytes contents) k = .ok ⟨some owner, p.1, p.2⟩ := by
  obtain ⟨places, hmem, hsorted⟩ := Buffer.exists_places contents
  refine ⟨places, hmem, hsorted, fun owner k p hp ↦ ?_⟩
  have hstart : (0, 0) ∈ places := (hmem _).mpr Buffer.isPlace_start
  cases places with
  | nil => cases hstart
  | cons q rest =>
    obtain rfl : (0, 0) = q := by
      rcases List.mem_cons.mp hstart with heq | hrest
      · exact heq
      · have hfront := List.rel_of_pairwise_cons hsorted hrest
        unfold Before at hfront
        omega
    refine walk_eq (c := start owner) Buffer.isPlace_start (fun p ↦ ?_) hsorted.of_cons hp
    rw [Buffer.mem_behind_iff hsorted, hmem]
    rfl

/-! ### What motions do -/

/-- One character on leads from one cursor to another one with a greater offset, and one character
back leads from there to the first one again. -/
structure Turns (b : Buffer) (c c' : Cursor) : Prop where
  right : c.right b = .ok c'
  left : c'.left b = .ok c
  offset_lt : ∃ pos pos', c.offset b = .ok pos ∧ c'.offset b = .ok pos' ∧ pos < pos'

/-- Motions between neighbours undo each other. -/
theorem Next.turns (h : Next (ofBytes contents) c c') : Turns (ofBytes contents) c c' :=
  ⟨h.right, h.left, h.isIn.1.offset_lt h.isIn.2 h.before⟩

/-- Motions keep a cursor in its buffer. One character on and one character back undo each other,
except at the end of the text and at its start, and move the offset on and back. Going on from the
start comes to every place, from each to the next one. -/
theorem motions_sound (contents : ByteArray) {c : Cursor} (h : c.IsIn (ofBytes contents)) :
    ((∀ line col : Int, Succeeds (c.setLineCol (ofBytes contents) line col)
        (·.IsIn (ofBytes contents))) ∧
      Succeeds (c.left (ofBytes contents)) (·.IsIn (ofBytes contents)) ∧
      Succeeds (c.right (ofBytes contents)) (·.IsIn (ofBytes contents)) ∧
      Succeeds (c.up (ofBytes contents)) (·.IsIn (ofBytes contents)) ∧
      Succeeds (c.down (ofBytes contents)) (·.IsIn (ofBytes contents)) ∧
      c.home.IsIn (ofBytes contents) ∧
      Succeeds (c.toEnd (ofBytes contents)) (·.IsIn (ofBytes contents))) ∧
    (¬ AtEnd (ofBytes contents) c → ∃ c', Turns (ofBytes contents) c c') ∧
    (¬ (c.line = 0 ∧ c.col = 0) → ∃ c', Turns (ofBytes contents) c' c) ∧
    ∃ places : List (Nat × Nat), (∀ p, p ∈ places ↔ IsPlace (ofBytes contents) p.1 p.2) ∧
      places.Pairwise Before ∧ ∀ owner k p, places[k]? = some p →
        (start owner).walk (ofBytes contents) k = .ok ⟨some owner, p.1, p.2⟩ := by
  refine ⟨⟨c.setLineCol_isIn, left_isIn h, right_isIn h.1, c.up_isIn, c.down_isIn, home_isIn h,
    toEnd_isIn h.1⟩, fun hend ↦ ?_, fun hstart ↦ ?_, exists_walk contents⟩
  · obtain ⟨c', hnext⟩ := h.exists_next hend
    exact ⟨c', hnext.turns⟩
  · obtain ⟨c', hnext⟩ := h.exists_previous hstart
    exact ⟨c', hnext.turns⟩

/-- From the end of a line in front of a delimiter of two characters, one character on leads across
both of them, and one character back across both again. -/
theorem motions_sound_delimiter :
    (⟨some 0, 0, 1⟩ : Cursor).IsIn (ofBytes "a\r\nb".toUTF8) ∧
      ¬ AtEnd (ofBytes "a\r\nb".toUTF8) ⟨some 0, 0, 1⟩ ∧
      Turns (ofBytes "a\r\nb".toUTF8) ⟨some 0, 0, 1⟩ ⟨some 0, 1, 0⟩ := by
  have hin : (⟨some 0, 0, 1⟩ : Cursor).IsIn (ofBytes "a\r\nb".toUTF8) :=
    ⟨by decide +kernel, 1, by decide +kernel, Nat.le_refl 1⟩
  have hend : ¬ AtEnd (ofBytes "a\r\nb".toUTF8) ⟨some 0, 0, 1⟩ := fun h ↦
    absurd h.1 (by decide +kernel)
  obtain ⟨c', hturns⟩ := (motions_sound _ hin).2.1 hend
  have hright : (⟨some 0, 0, 1⟩ : Cursor).right (ofBytes "a\r\nb".toUTF8) =
      .ok ⟨some 0, 1, 0⟩ := by decide +kernel
  obtain rfl : c' = ⟨some 0, 1, 0⟩ := Except.ok.inj (hturns.right.symm.trans hright)
  exact ⟨hin, hend, hturns⟩

end Cursor

end CodeViewer
