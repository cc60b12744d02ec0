import CodeViewer.Proofs.Highlight.Lookup
import CodeViewer.Proofs.Scan.Tiling
import CodeViewer.Proofs.Buffer.Lines

/-!
# The matches of a scan

A highlighter follows the tokens of a scan from line to line and column to column and notes on each
line which columns are drawn in which group. Every character that a token holds is noted in the
group and the class of the token, in the column that is reached by counting the characters in front
of it.
-/

namespace CodeViewer.Highlighter

open Text (Piece Laid Boundary linesOf feedPiece pieceLines)
open Buffer (advancePosition_feed advancePosition_of_ne le_foldl_advancePosition
  line_foldl_advancePosition)

/-! ### Groups and classes by line and column -/

/-- The group and the class some matches of a line give a column. -/
def markAt (ms : List Match) (col : Nat) : Option (Group × Class) :=
  (covering ms col).map fun m ↦ (m.group, m.cls)

/-- The group some matches of a line give a column. -/
def groupAt (ms : List Match) (col : Nat) : Group :=
  ((markAt ms col).map Prod.fst).getD .default

/-- The matches noted for a line. -/
def noted (lines : Array (Array Match)) (line : Nat) : List Match :=
  ((lines[line]?).getD #[]).toList

/-- Matches have been noted line by line, each in order, up to a line and column. -/
structure NotedUpTo (lines : Array (Array Match)) (line col : Nat) : Prop where
  inOrder : ∀ k, InOrder (noted lines k)
  before : ∀ k, ∀ m ∈ noted lines k, k < line ∨ k = line ∧ m.last < col

variable {lines : Array (Array Match)} {line col : Nat}

private theorem NotedUpTo.mono (h : NotedUpTo lines line col) {line' col' : Nat}
    (hle : line < line' ∨ line = line' ∧ col ≤ col') : NotedUpTo lines line' col' := by
  refine ⟨h.inOrder, fun k m hm ↦ ?_⟩
  have hbefore := h.before k m hm
  omega

private theorem NotedUpTo.markAt_eq_none (h : NotedUpTo lines line col) {k j : Nat}
    (hle : line < k ∨ line = k ∧ col ≤ j) : markAt (noted lines k) j = none := by
  have hnone : (noted lines k).find? (j ≤ ·.last) = none := by
    rw [List.find?_eq_none]
    intro m hm
    have hbefore := h.before k m hm
    simp only [decide_eq_true_eq]
    omega
  simp [markAt, covering, hnone]

/-! ### Adding a match -/

private theorem size_addMatch (line first stop : Nat) (g : Group) (c : Class) :
    (addMatch lines line first stop g c).size = lines.size := by
  unfold addMatch
  split
  · rfl
  · simp

private theorem noted_addMatch {first stop : Nat} (hlt : first < stop) (g : Group) (c : Class)
    (k : Nat) :
    noted (addMatch lines line first stop g c) k =
      if k = line ∧ line < lines.size then noted lines k ++ [⟨first, stop - 1, g, c⟩]
      else noted lines k := by
  unfold addMatch noted
  rw [if_neg (Nat.not_le.mpr hlt), Array.getElem?_modify]
  by_cases hk : line = k
  · subst hk
    by_cases hsize : line < lines.size
    · simp [hsize]
    · simp [hsize]
  · simp [hk, Ne.symm hk]

/-- A match is added behind those that are there. -/
theorem NotedUpTo.addMatch {first stop : Nat} (h : NotedUpTo lines line first)
    (hle : first ≤ stop) (g : Group) (c : Class) :
    NotedUpTo (Highlighter.addMatch lines line first stop g c) line stop := by
  rcases Nat.eq_or_lt_of_le hle with rfl | hlt
  · rw [Highlighter.addMatch, if_pos (Nat.le_refl _)]
    exact h
  · constructor
    · intro k
      rw [noted_addMatch hlt]
      split
      · next hk =>
        obtain ⟨rfl, -⟩ := hk
        constructor
        · intro m hm
          rcases List.mem_append.mp hm with hm | hm
          · exact (h.inOrder k).nonempty m hm
          · rw [List.mem_singleton.mp hm]
            simp only
            omega
        · rw [List.pairwise_append]
          refine ⟨(h.inOrder k).apart, List.pairwise_singleton _ _, fun m hm m' hm' ↦ ?_⟩
          rw [List.mem_singleton.mp hm']
          have hbefore := h.before k m hm
          simp only
          omega
      · exact h.inOrder k
    · intro k m hm
      rw [noted_addMatch hlt] at hm
      split at hm
      · next hk =>
        rcases List.mem_append.mp hm with hm | hm
        · have hbefore := h.before k m hm
          omega
        · rw [List.mem_singleton.mp hm]
          simp only
          omega
      · have hbefore := h.before k m hm
        omega

private theorem NotedUpTo.markAt_addMatch {first stop : Nat} (h : NotedUpTo lines line first)
    (g : Group) (c : Class) {k : Nat} (hk : k < lines.size) (j : Nat) :
    markAt (noted (Highlighter.addMatch lines line first stop g c) k) j =
      if k = line ∧ first ≤ j ∧ j < stop then some (g, c) else markAt (noted lines k) j := by
  by_cases hlt : first < stop
  · rw [noted_addMatch hlt]
    by_cases hline : k = line
    · subst hline
      rw [if_pos ⟨rfl, hk⟩]
      unfold markAt covering
      rw [List.find?_append]
      cases hfound : (noted lines k).find? (j ≤ ·.last) with
      | some m =>
        have hm := List.mem_of_find?_eq_some hfound
        have hlast := List.find?_some hfound
        have hbefore := h.before k m hm
        rw [Option.some_or, if_neg]
        simp only [decide_eq_true_eq] at hlast
        omega
      | none =>
        rw [Option.none_or]
        by_cases hj : j < stop
        · have hlast : j ≤ stop - 1 := by omega
          by_cases hfirst : first ≤ j
          · simp [hlast, hfirst, hj, Option.filter]
          · simp [hlast, hfirst, Option.filter]
        · have hlast : ¬ j ≤ stop - 1 := by omega
          simp [hlast, hj]
    · simp [hline]
  · rw [Highlighter.addMatch, if_pos (Nat.not_lt.mp hlt), if_neg]
    omega

/-! ### Characters with a mark each -/

variable {α : Type}

/-- What characters that are laid out from a line and column on bring to a line and column. A line
feed takes no column. -/
def givenAt : (place : Nat × Nat) → List (Char × α) → Nat × Nat → Option α
  | _, [], _ => none
  | place, (c, a) :: rest, p =>
    if c ≠ '\n' ∧ place = p then some a
    else givenAt (Buffer.advancePosition place c) rest p

private theorem givenAt_feed (place p : Nat × Nat) (a : α) (rest : List (Char × α)) :
    givenAt place (('\n', a) :: rest) p = givenAt (place.1 + 1, 0) rest p := by
  simp [givenAt, advancePosition_feed]

/-- A character other than a line feed takes one column. -/
theorem givenAt_of_ne {c : Char} (h : c ≠ '\n') (place p : Nat × Nat) (a : α)
    (rest : List (Char × α)) :
    givenAt place ((c, a) :: rest) p =
      if place = p then some a else givenAt (place.1, place.2 + 1) rest p := by
  simp [givenAt, advancePosition_of_ne h, h]

private theorem givenAt_eq_none {place p : Nat × Nat}
    (hp : p.1 < place.1 ∨ p.1 = place.1 ∧ p.2 < place.2) (cells : List (Char × α)) :
    givenAt place cells p = none := by
  induction cells generalizing place with
  | nil => rfl
  | cons cell rest ih =>
    obtain ⟨c, a⟩ := cell
    by_cases hc : c = '\n'
    · subst hc
      rw [givenAt_feed]
      exact ih (.inl (by simp only; omega))
    · rw [givenAt_of_ne hc, if_neg]
      · exact ih (by simp only; omega)
      · rintro rfl
        omega

/-- Characters are laid out in front of the place they end at. -/
theorem givenAt_eq_none_of_le {place p : Nat × Nat} {cells : List (Char × α)}
    (hp : ((cells.map Prod.fst).foldl Buffer.advancePosition place).1 < p.1 ∨
      ((cells.map Prod.fst).foldl Buffer.advancePosition place).1 = p.1 ∧
        ((cells.map Prod.fst).foldl Buffer.advancePosition place).2 ≤ p.2) :
    givenAt place cells p = none := by
  induction cells generalizing place with
  | nil => rfl
  | cons cell rest ih =>
    obtain ⟨c, a⟩ := cell
    rw [List.map_cons, List.foldl_cons] at hp
    by_cases hc : c = '\n'
    · subst hc
      rw [givenAt_feed]
      exact ih hp
    · rw [advancePosition_of_ne hc] at hp
      rw [givenAt_of_ne hc, if_neg]
      · exact ih hp
      · rintro rfl
        have hle := le_foldl_advancePosition (rest.map Prod.fst) (place.1, place.2 + 1)
        simp only at hle
        omega

/-- Characters are laid out one after the other. -/
theorem givenAt_append (place p : Nat × Nat) (cells more : List (Char × α)) :
    givenAt place (cells ++ more) p =
      (givenAt place cells p).or
        (givenAt ((cells.map Prod.fst).foldl Buffer.advancePosition place) more p) := by
  induction cells generalizing place with
  | nil => rfl
  | cons cell rest ih =>
    obtain ⟨c, a⟩ := cell
    rw [List.cons_append, givenAt, givenAt]
    split
    · rfl
    · exact ih _

private theorem getD_givenAt_append (place p : Nat × Nat) (cells more : List (Char × α))
    (a : α) :
    (givenAt place (cells ++ more) p).getD a =
      (givenAt ((cells.map Prod.fst).foldl Buffer.advancePosition place) more p).getD
        ((givenAt place cells p).getD a) := by
  rw [givenAt_append]
  by_cases hp : p.1 < ((cells.map Prod.fst).foldl Buffer.advancePosition place).1 ∨
      p.1 = ((cells.map Prod.fst).foldl Buffer.advancePosition place).1 ∧
        p.2 < ((cells.map Prod.fst).foldl Buffer.advancePosition place).2
  · rw [givenAt_eq_none hp, Option.or_none, Option.getD_none]
  · have hfront : givenAt place cells p = none := givenAt_eq_none_of_le (by omega)
    rw [hfront, Option.none_or, Option.getD_none]

private theorem exists_of_givenAt {place p : Nat × Nat} {cells : List (Char × α)} {a : α}
    (h : givenAt place cells p = some a) : ∃ c, (c, a) ∈ cells := by
  induction cells generalizing place with
  | nil => cases h
  | cons cell rest ih =>
    obtain ⟨c, b⟩ := cell
    unfold givenAt at h
    split at h
    · cases h
      exact ⟨c, List.mem_cons_self⟩
    · obtain ⟨d, hd⟩ := ih h
      exact ⟨d, List.mem_cons_of_mem _ hd⟩

private theorem givenAt_of_getElem? (place : Nat × Nat) {cells : List (Char × α)} {k j : Nat}
    {row : List (Char × α)} {cell : Char × α}
    (hline : (linesOf (fun cell ↦ cell.1 == '\n') cells)[k]? = some row)
    (hcol : row[j]? = some cell) (hcell : cell.1 ≠ '\n') :
    givenAt place cells (place.1 + k, if k = 0 then place.2 + j else j) = some cell.2 := by
  induction cells generalizing place k j row with
  | nil =>
    obtain ⟨-, rfl⟩ : k = 0 ∧ row = [] := by
      cases k with
      | zero => simpa [linesOf] using hline.symm
      | succ k => simp [linesOf] at hline
    cases hcol
  | cons first rest ih =>
    obtain ⟨c, a⟩ := first
    by_cases hc : c = '\n'
    · subst hc
      rw [Text.linesOf_cons_of_pos _ rfl] at hline
      rw [givenAt_feed]
      cases k with
      | zero =>
        obtain rfl : [('\n', a)] = row := by simpa using hline
        cases j with
        | zero =>
          obtain rfl : ('\n', a) = cell := by simpa using hcol
          exact absurd rfl hcell
        | succ j => simp at hcol
      | succ k =>
        have hrest := ih (place.1 + 1, 0) hline hcol
        simpa [Nat.add_assoc, Nat.add_comm 1] using hrest
    · rw [Text.linesOf_cons_of_neg _ (by simpa using hc)] at hline
      rw [givenAt_of_ne hc]
      obtain ⟨l, ls, hl⟩ := List.exists_cons_of_ne_nil
        (Text.linesOf_ne_nil (fun cell : Char × α ↦ cell.1 == '\n') rest)
      rw [hl] at ih
      rw [hl, List.modifyHead_cons] at hline
      cases k with
      | zero =>
        obtain rfl : (c, a) :: l = row := by simpa using hline
        cases j with
        | zero =>
          obtain rfl : (c, a) = cell := by simpa using hcol
          simp
        | succ j =>
          have hrest := ih (place.1, place.2 + 1) (k := 0) rfl hcol
          rw [if_neg (fun he ↦ by simp [Prod.ext_iff] at he)]
          simpa [Nat.add_assoc, Nat.add_comm 1] using hrest
      | succ k =>
        have hrest := ih (place.1, place.2 + 1) (k := k + 1) hline hcol
        rw [if_neg (fun he ↦ by simp [Prod.ext_iff] at he)]
        simpa using hrest

/-! ### Adding the matches of a token -/

private theorem addChars_feed (g : Group) (c : Class) (line first col : Nat) (rest : List Char) :
    addChars g c lines line first col ('\n' :: rest) =
      addChars g c (addMatch lines line first col g c) (line + 1) 0 0 rest := by
  simp [addChars]

private theorem addChars_of_ne {ch : Char} (h : ch ≠ '\n') (g : Group) (c : Class)
    (line first col : Nat) (rest : List Char) :
    addChars g c lines line first col (ch :: rest) =
      addChars g c lines line first (col + 1) rest := by
  simp [addChars, h]

private theorem size_addChars (g : Group) (c : Class) (lines : Array (Array Match))
    (line first col : Nat)
    (chars : List Char) : (addChars g c lines line first col chars).size = lines.size := by
  induction chars generalizing lines line first col with
  | nil => exact size_addMatch _ _ _ _ _
  | cons ch rest ih =>
    unfold addChars
    split
    · rw [ih, size_addMatch]
    · rw [ih]

/-- The matches of characters mark each of them, and those in front of them that are still to be
noted. -/
theorem NotedUpTo.addChars {first : Nat} (h : NotedUpTo lines line first) (hle : first ≤ col)
    (g : Group) (c : Class) (chars : List Char) :
    NotedUpTo (Highlighter.addChars g c lines line first col chars)
        (chars.foldl Buffer.advancePosition (line, col)).1
        (chars.foldl Buffer.advancePosition (line, col)).2 ∧
      ∀ k < lines.size, ∀ j,
        markAt (noted (Highlighter.addChars g c lines line first col chars) k) j =
          (givenAt (line, col) (chars.map (·, some (g, c))) (k, j)).getD
            (if k = line ∧ first ≤ j ∧ j < col then some (g, c)
              else markAt (noted lines k) j) := by
  induction chars generalizing lines line first col with
  | nil =>
    exact ⟨h.addMatch hle g c, fun k hk j ↦ h.markAt_addMatch g c hk j⟩
  | cons ch rest ih =>
    rw [List.foldl_cons, List.map_cons]
    by_cases hch : ch = '\n'
    · subst hch
      have hnext : NotedUpTo (Highlighter.addMatch lines line first col g c) (line + 1) 0 :=
        (h.addMatch hle g c).mono (.inl (Nat.lt_succ_self _))
      obtain ⟨hnoted, hmarks⟩ := ih hnext (Nat.le_refl 0)
      rw [addChars_feed, advancePosition_feed]
      refine ⟨hnoted, fun k hk j ↦ ?_⟩
      rw [hmarks k (by rwa [size_addMatch]) j, givenAt_feed, h.markAt_addMatch g c hk, if_neg]
      omega
    · obtain ⟨hnoted, hmarks⟩ := ih h (Nat.le_succ_of_le hle)
      rw [addChars_of_ne hch, advancePosition_of_ne hch]
      refine ⟨hnoted, fun k hk j ↦ ?_⟩
      rw [hmarks k hk j, givenAt_of_ne hch]
      by_cases hp : (line, col) = (k, j)
      · obtain ⟨rfl, rfl⟩ : line = k ∧ col = j := by simpa using hp
        have hlater : givenAt (line, col + 1) (rest.map (·, some (g, c))) (line, col) = none := by
          apply givenAt_eq_none
          exact .inr ⟨rfl, Nat.lt_succ_self _⟩
        rw [if_pos rfl, hlater, Option.getD_none, if_pos ⟨rfl, hle, Nat.lt_succ_self _⟩,
          Option.getD_some]
      · rw [if_neg hp]
        congr 1
        have hiff : (k = line ∧ first ≤ j ∧ j < col + 1) ↔ k = line ∧ first ≤ j ∧ j < col := by
          rw [Prod.ext_iff] at hp
          simp only at hp
          omega
        simp only [hiff]

private theorem NotedUpTo.getD_none {place : Nat × Nat} (h : NotedUpTo lines place.1 place.2)
    {cells : List (Char × Option (Group × Class))} (hcells : ∀ cell ∈ cells, cell.2 = none)
    (k j : Nat) :
    (givenAt place cells (k, j)).getD (markAt (noted lines k) j) = markAt (noted lines k) j := by
  by_cases hp : k < place.1 ∨ k = place.1 ∧ j < place.2
  · rw [givenAt_eq_none hp, Option.getD_none]
  · rw [h.markAt_eq_none (by omega)]
    cases hgiven : givenAt place cells (k, j) with
    | none => rfl
    | some mark =>
      obtain ⟨c, hc⟩ := exists_of_givenAt hgiven
      exact hcells _ hc

/-- How the characters of a class are marked: plain text is not. -/
def markOf (language : Option Language) (c : Class) : Option (Group × Class) :=
  if Language.groupOf language c = .default then none else some (Language.groupOf language c, c)

/-- Marks tell the group of a class. -/
theorem group_markOf (language : Option Language) (c : Class) :
    ((markOf language c).map Prod.fst).getD .default = Language.groupOf language c := by
  unfold markOf
  split
  · next h => exact h.symm
  · rfl

/-- The place behind a text is where its characters lead to. -/
theorem advance_eq (text : ByteArray) (place : Nat × Nat) :
    advance text place = (Text.chars text).toList.foldl Buffer.advancePosition place := by
  rw [advance, Array.foldl_toList]

/-- The matches of a token mark each of its characters with its class. -/
theorem NotedUpTo.addToken {place : Nat × Nat} (h : NotedUpTo lines place.1 place.2)
    (language : Option Language) (t : Token) :
    NotedUpTo (Highlighter.addToken language lines t place) (advance t.text place).1
        (advance t.text place).2 ∧
      ∀ k < lines.size, ∀ j,
        markAt (noted (Highlighter.addToken language lines t place) k) j =
          (givenAt place ((Text.chars t.text).toList.map
            (·, markOf language t.cls)) (k, j)).getD (markAt (noted lines k) j) := by
  rw [advance_eq]
  unfold Highlighter.addToken markOf
  simp only
  split
  · next hdefault =>
    refine ⟨h.mono (le_foldl_advancePosition _ place), fun k _ j ↦ ?_⟩
    refine (h.getD_none (fun cell hcell ↦ ?_) k j).symm
    obtain ⟨c, -, rfl⟩ := List.mem_map.mp hcell
    rfl
  · obtain ⟨hnoted, hmarks⟩ := h.addChars (Nat.le_refl _) (Language.groupOf language t.cls) t.cls
      (Text.chars t.text).toList
    refine ⟨hnoted, fun k hk j ↦ ?_⟩
    rw [hmarks k hk j, if_neg]
    omega

private theorem size_addToken (language : Option Language) (lines : Array (Array Match)) (t : Token)
    (place : Nat × Nat) : (addToken language lines t place).size = lines.size := by
  unfold addToken
  simp only
  split
  · rfl
  · exact size_addChars _ _ _ _ _ _ _

/-! ### Following the tokens -/

/-- Whether a token holds a piece of the text as a whole. -/
def holdsPiece (p : Nat × Piece) (t : Token) : Bool := t.start ≤ p.1 && p.1 + p.2.size ≤ t.stop

/-- How a piece of the text is marked: with the class of the token that holds it. -/
def markOfPiece (language : Option Language) (tokens : List Token) (p : Nat × Piece) :
    Option (Group × Class) :=
  (tokens.find? (holdsPiece p)).bind fun t ↦ markOf language t.cls

/-- Of tokens that lie end to end no two hold the same piece. -/
theorem eq_of_holdsPiece {text : ByteArray} {pos stop : Nat} {tokens : List Token}
    (htiles : Tiles text pos tokens stop) {p : Nat × Piece} {t t' : Token} (ht : t ∈ tokens)
    (ht' : t' ∈ tokens) (hp : holdsPiece p t) (hp' : holdsPiece p t') : t = t' := by
  have hpos := p.2.size_pos
  simp only [holdsPiece, Bool.and_eq_true, decide_eq_true_eq] at hp hp'
  exact htiles.eq_of_holds ht ht' ⟨hp.1, by omega⟩ ⟨hp'.1, by omega⟩

/-- The characters of pieces with their marks. -/
def cellsOf (language : Option Language) (tokens : List Token) (ps : List (Nat × Piece)) :
    List (Char × Option (Group × Class)) :=
  ps.map fun p ↦ (p.2.toChar, markOfPiece language tokens p)

private theorem cellsOf_cons {text : ByteArray} {t : Token} (hstart : t.start ≤ text.size)
    (htext : t.text = text.extract t.start t.stop) {inside behind : List (Nat × Piece)}
    (hinside : Laid text t.start inside t.stop) {stop : Nat}
    (hbehind : Laid text t.stop behind stop) (language : Option Language) (ts : List Token) :
    cellsOf language (t :: ts) (inside ++ behind) =
      (Text.chars t.text).toList.map (·, markOf language t.cls) ++
        cellsOf language ts behind := by
  have hchars : (Text.chars t.text).toList = inside.map (·.2.toChar) := by
    rw [htext, hinside.chars_extract hstart]
  rw [hchars, List.map_map, cellsOf, List.map_append]
  congr 1
  · refine List.map_congr_left fun p hp ↦ ?_
    obtain ⟨hfirst, hlast, -⟩ := hinside.mem hp
    simp [markOfPiece, holdsPiece, hfirst, hlast]
  · refine List.map_congr_left fun p hp ↦ ?_
    obtain ⟨hfirst, -⟩ := hbehind.mem hp
    have hpos := p.2.size_pos
    have hno : holdsPiece p t = false := by
      simp only [holdsPiece, Bool.and_eq_false_iff, decide_eq_false_iff_not]
      omega
    simp [markOfPiece, hno]

/-- The matches of the tokens of a text mark every character behind a place with the class of the
token that holds it. -/
theorem NotedUpTo.addTokens {text : ByteArray} (place : Nat × Nat)
    (h : NotedUpTo lines place.1 place.2) (language : Option Language) {tokens : List Token}
    {pos stop : Nat} (htiles : Tiles text pos tokens stop) {ps : List (Nat × Piece)}
    (hps : Laid text pos ps text.size) (hpos : Boundary text pos) :
    (∀ k, InOrder (noted (Highlighter.addTokens language text lines pos place tokens) k)) ∧
      ∀ k < lines.size, ∀ j,
        markAt (noted (Highlighter.addTokens language text lines pos place tokens) k) j =
          (givenAt place (cellsOf language tokens ps) (k, j)).getD
            (markAt (noted lines k) j) := by
  induction tokens generalizing lines place pos ps with
  | nil =>
    refine ⟨h.inOrder, fun k _ j ↦ ?_⟩
    refine (h.getD_none (fun cell hcell ↦ ?_) k j).symm
    obtain ⟨p, -, rfl⟩ := List.mem_map.mp hcell
    rfl
  | cons t ts ih =>
    obtain ⟨rfl, hlt, hle, -, hstop, htext, hrest⟩ := htiles
    obtain ⟨inside, behind, rfl, hinside, hbehind⟩ :=
      hps.split hstop (Nat.le_of_lt hlt) hle hpos
    have hcells := cellsOf_cons hpos.le_size htext hinside hbehind language ts
    have hplace : advance (text.extract t.start t.start) place = place := by
      rw [ByteArray.extract_same]
      simp [advance, Text.chars, Text.pieces, Text.piecesFrom]
    have hafter : advance t.text place = (((Text.chars t.text).toList.map
        (·, markOf language t.cls)).map Prod.fst).foldl Buffer.advancePosition place := by
      rw [advance_eq, List.map_map, Function.comp_def, List.map_id']
    obtain ⟨hnoted, hmarks⟩ := h.addToken language t
    obtain ⟨horder, hlater⟩ := ih _ hnoted hrest hbehind hstop
    unfold Highlighter.addTokens
    simp only [hplace]
    refine ⟨horder, fun k hk j ↦ ?_⟩
    rw [hlater k (by rwa [size_addToken]) j, hmarks k hk j, hcells, getD_givenAt_append,
      ← hafter]

private theorem size_addTokens (language : Option Language) (source : ByteArray)
    (lines : Array (Array Match)) (pos : Nat) (place : Nat × Nat) (tokens : List Token) :
    (addTokens language source lines pos place tokens).size = lines.size := by
  induction tokens generalizing lines pos place with
  | nil => rfl
  | cons t ts ih =>
    unfold addTokens
    simp only
    rw [ih, size_addToken]

/-! ### Scanning the buffer -/

/-- What a highlighter knows of a text belongs to tokens that lie end to end: on each line it has
matches in order, which mark every character with the class of the token that holds it, and nothing
else. -/
structure Highlights (h : Highlighter) (contents : ByteArray) : Prop where
  tiles : ∃ stop, Tiles contents 0 h.tokens.toList stop
  inOrder : ∀ k, InOrder (noted h.lineMatches k)
  marks : ∀ k j, markAt (noted h.lineMatches k) j =
    (givenAt (0, 0) (cellsOf h.language h.tokens.toList (Text.pieces contents).toList) (k, j)).join

private theorem noted_replicate (n k : Nat) : noted (Array.replicate n #[]) k = [] := by
  unfold noted
  rw [Array.getElem?_replicate]
  split <;> rfl

private theorem notedUpTo_replicate (n : Nat) : NotedUpTo (Array.replicate n #[]) 0 0 := by
  constructor
  · intro k
    rw [noted_replicate]
    exact ⟨by simp, List.Pairwise.nil⟩
  · simp [noted_replicate]

/-- Characters laid out from the start of a text on bring their marks to their lines and columns. -/
theorem givenAt_cellsOf {contents : ByteArray} (language : Option Language)
    (tokens : List Token) {k j : Nat} {ps : List (Nat × Piece)} {p : Nat × Piece}
    (hline : (pieceLines contents)[k]? = some ps) (hp : ps[j]? = some p)
    (hfeed : feedPiece p = false) :
    givenAt (0, 0) (cellsOf language tokens (Text.pieces contents).toList) (k, j) =
      some (markOfPiece language tokens p) := by
  have hcells : (linesOf (fun cell : Char × Option (Group × Class) ↦ cell.1 == '\n')
      (cellsOf language tokens (Text.pieces contents).toList))[k]? =
        some (cellsOf language tokens ps) := by
    rw [cellsOf, Text.linesOf_map, List.getElem?_map]
    simp only [← Text.feedPiece_eq]
    rw [← pieceLines, hline]
    rfl
  have hcell : (cellsOf language tokens ps)[j]? =
      some (p.2.toChar, markOfPiece language tokens p) := by
    rw [cellsOf, List.getElem?_map, hp]
    rfl
  have hne : p.2.toChar ≠ '\n' := by
    rw [Text.feedPiece_eq] at hfeed
    simpa using hfeed
  have hgiven := givenAt_of_getElem? (0, 0) hcells hcell hne
  simpa using hgiven

private theorem givenAt_behind {contents : ByteArray} (language : Option Language)
    (tokens : List Token) {k : Nat} (hk : (pieceLines contents).length ≤ k) (j : Nat) :
    givenAt (0, 0) (cellsOf language tokens (Text.pieces contents).toList) (k, j) = none := by
  apply givenAt_eq_none_of_le
  rw [line_foldl_advancePosition, cellsOf, List.map_map, List.countP_map]
  rw [pieceLines, Text.length_linesOf] at hk
  have hfeeds : (Text.pieces contents).toList.countP
      ((· == '\n') ∘ Prod.fst ∘ fun p ↦ (p.2.toChar, markOfPiece language tokens p)) =
        (Text.pieces contents).toList.countP feedPiece := by
    congr 1
    funext p
    exact (Text.feedPiece_eq p).symm
  rw [hfeeds, Nat.zero_add]
  exact .inl hk

/-- The matches of the tokens of a text highlight it. -/
theorem highlights_of_tiles {h : Highlighter} {contents : ByteArray} {n stop : Nat}
    (hn : n = (pieceLines contents).length) (htiles : Tiles contents 0 h.tokens.toList stop)
    (hmatches : h.lineMatches = addTokens h.language contents (Array.replicate n #[]) 0 (0, 0)
      h.tokens.toList) : h.Highlights contents := by
  obtain ⟨horder, hmarks⟩ := (notedUpTo_replicate n).addTokens (0, 0) h.language htiles
    (Text.pieces_laid contents) .start
  rw [← hmatches] at horder hmarks
  rw [Array.size_replicate] at hmarks
  refine ⟨⟨stop, htiles⟩, horder, fun k j ↦ ?_⟩
  by_cases hk : k < n
  · have hnone : markAt (noted (Array.replicate n #[]) k) j = none := by
      rw [noted_replicate]
      rfl
    rw [hmarks k hk j, hnone]
    cases givenAt (0, 0) (cellsOf h.language h.tokens.toList (Text.pieces contents).toList) (k, j)
    · rfl
    · rfl
  · have hsize : h.lineMatches.size ≤ k := by
      rw [hmatches, size_addTokens, Array.size_replicate]
      exact Nat.not_lt.mp hk
    have hnone : noted h.lineMatches k = [] := by
      rw [noted, Array.getElem?_eq_none hsize]
      rfl
    rw [hnone, givenAt_behind _ _ (hn ▸ Nat.not_lt.mp hk)]
    rfl

/-- Every character of a line is marked with the class of the token that holds it. -/
theorem Highlights.markAt_line {h : Highlighter} {contents : ByteArray} (hh : h.Highlights contents)
    {k j : Nat} {ps : List (Nat × Piece)} {p : Nat × Piece}
    (hline : (pieceLines contents)[k]? = some ps) (hp : ps[j]? = some p)
    (hfeed : feedPiece p = false) :
    markAt (noted h.lineMatches k) j = markOfPiece h.language h.tokens.toList p := by
  rw [hh.marks, givenAt_cellsOf _ _ hline hp hfeed, Option.join_some]

/-- Scanning a buffer highlights its text, as far as the scan comes. -/
theorem update_highlights {h : Highlighter} {contents : ByteArray}
    (hbuffer : h.buffer = Buffer.ofBytes contents) : h.update.1.Highlights contents := by
  have hlines : h.buffer.lines = (pieceLines contents).length := by
    rw [hbuffer, Buffer.lines_ofBytes]
  have hbytes : h.buffer.bytes = contents := by rw [hbuffer, Buffer.bytes_ofBytes]
  unfold update
  split
  · have htiles : Tiles contents 0 [] 0 := rfl
    exact highlights_of_tiles hlines htiles rfl
  · next l _ =>
    obtain ⟨stop, htiles⟩ := Scanner.scan_tiles l.grammar h.maxDepth contents
    rw [hbytes]
    exact highlights_of_tiles hlines htiles rfl

end CodeViewer.Highlighter
