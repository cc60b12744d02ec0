import CodeViewer.Proofs.Widget.Bounds
import CodeViewer.Proofs.Widget.Browsing

/-!
# A view is drawn inside its bounds

What a view puts on the screen covers the rectangle of the view and nothing else. A tab is cut at
both edges of the text, another character is put only where all of its cells fit, and one that takes
no cell only in front of the right edge, as a line is left as soon as it has come to that edge.

Coordinates have 64 bits. Where a sum of them comes back at the other end of their range, a view may
leave its rectangle, so that the sums have to stay in the range.
-/

namespace CodeViewer

open Buffer (ofBytes)
open Text (pieceLines withoutDelimiter)

namespace CodeView

variable {cv : CodeView} {contents : ByteArray} {cells : Nat}

/-! ### Counting cells -/

/-- The number of cells some characters take. -/
def cellsOf (cv : CodeView) (text : List Char) : Int := (text.map cv.charWidth).sum

private theorem cellsOf_cons (cv : CodeView) (c : Char) (rest : List Char) :
    cv.cellsOf (c :: rest) = cv.charWidth c + cv.cellsOf rest := List.sum_cons

private theorem cellsOf_append (cv : CodeView) (front back : List Char) :
    cv.cellsOf (front ++ back) = cv.cellsOf front + cv.cellsOf back := by
  rw [cellsOf, List.map_append, List.sum_append]
  rfl

private theorem cellsOf_nonneg (htab : 0 ≤ cv.tabSize) (text : List Char) :
    0 ≤ cv.cellsOf text := by
  induction text with
  | nil => exact Int.le_refl 0
  | cons c rest ih =>
    rw [cellsOf_cons]
    exact Int.add_nonneg (charWidth_nonneg htab c) ih

/-- As long as their number is one, the cells are counted. -/
theorem foldl_charWidth_eq (htab : 0 ≤ cv.tabSize) {text : List Char} {front : Int}
    (hfront : 0 ≤ front) (hlimit : front + cv.cellsOf text < 2 ^ 63) :
    text.foldl (fun cells c ↦ wrap (cells + cv.charWidth c)) front =
      front + cv.cellsOf text := by
  induction text generalizing front with
  | nil => exact (Int.add_zero front).symm
  | cons c rest ih =>
    have hnonneg := charWidth_nonneg htab c
    have hrest := cellsOf_nonneg htab rest
    rw [cellsOf_cons] at hlimit ⊢
    rw [List.foldl_cons, wrap_eq (by omega) (by omega), ih (by omega) (by omega), Int.add_assoc]

/-! ### Sums that stay in their range -/

/-- The sums of coordinates stay in their range when a view draws a text whose lines take `cells`
cells at most. -/
structure InRange (cv : CodeView) (contents : ByteArray) (cells : Nat) : Prop where
  lines : ∀ line ∈ pieceLines contents,
    cv.cellsOf ((withoutDelimiter line).map (·.2.toChar)) ≤ cells
  left : -2 ^ 63 ≤ cv.bounds.x - cells
  right : cv.bounds.x + cv.bounds.width + cells < 2 ^ 63
  width : cv.bounds.width < 2 ^ 63
  top : -2 ^ 63 ≤ cv.bounds.y
  lastRow : -2 ^ 63 ≤ cv.bounds.y + cv.bounds.height
  bottom : cv.bounds.y + cv.bounds.height < 2 ^ 63
  rows : cv.bounds.height + (ofBytes contents).lines < 2 ^ 63

/-- A view in a rectangle, wherever it is scrolled to by its cursor. -/
structure Drawable (cv : CodeView) (contents : ByteArray) (cells : Nat) (b : Bounds) : Prop where
  buffer : cv.buffer = ofBytes contents
  line_lt : cv.cursor.line < (ofBytes contents).lines
  bounds : cv.bounds = b
  tabSize : 0 ≤ cv.tabSize
  inRange : cv.InRange contents cells
  wide : cv.columnWidth < cv.bounds.width
  scrollX_nonneg : 0 ≤ cv.scrollX
  scrollX_le : cv.scrollX ≤ cells
  scrollY_nonneg : 0 ≤ cv.scrollY
  scrollY_lt : 1 ≤ cv.bounds.height → cv.scrollY < (ofBytes contents).lines

private theorem columnWidth_nonneg (cv : CodeView) : 0 ≤ cv.columnWidth := by
  unfold columnWidth
  split
  · omega
  · exact Int.le_refl 0

namespace Drawable

variable {b : Bounds}

private theorem standsIn (h : cv.Drawable contents cells b) : cv.StandsIn contents :=
  ⟨h.buffer, h.line_lt⟩

private theorem cells_lt (h : cv.Drawable contents cells b) : (cells : Int) < 2 ^ 63 := by
  have hleft := h.inRange.left
  have hright := h.inRange.right
  have hwide := h.wide
  have hcolumn := cv.columnWidth_nonneg
  omega

/-- The characters of a line take no more cells than there may be. -/
theorem lineChars (h : cv.Drawable contents cells b) {line : Nat} (hline : line < cv.buffer.lines) :
    Succeeds (cv.lineChars line) (cv.cellsOf · ≤ cells) := by
  rw [h.buffer, Buffer.lines_ofBytes] at hline
  rw [lineChars_eq h.buffer (List.getElem?_eq_getElem hline)]
  exact .of_ok (h.inRange.lines _ (List.getElem_mem hline))

/-- The cells in front of a column of a line are counted. -/
theorem visualCol (h : cv.Drawable contents cells b) {line : Nat} (hline : line < cv.buffer.lines)
    (col : Nat) : Succeeds (cv.visualCol line col) fun vcol ↦ 0 ≤ vcol ∧ vcol ≤ cells := by
  refine (h.lineChars hline).bind fun chars hchars ↦ .of_ok ?_
  have hlimit := h.cells_lt
  have hsplit := cv.cellsOf_append (chars.take col) (chars.drop col)
  rw [List.take_append_drop] at hsplit
  have hfront := cellsOf_nonneg h.tabSize (chars.take col)
  have hback := cellsOf_nonneg h.tabSize (chars.drop col)
  rw [textWidth, foldl_charWidth_eq h.tabSize (Int.le_refl 0) (by omega)]
  omega

/-! ### Keys -/

/-- A view stays in its rectangle when its cursor is moved and it is scrolled, whatever is known of
its text. -/
theorem moved (h : cv.Drawable contents cells b) (hl : Highlighter) {c : Cursor}
    (hc : c.line < (ofBytes contents).lines) {scrollX scrollY : Int}
    (hx : 0 ≤ scrollX ∧ scrollX ≤ cells)
    (hy : 0 ≤ scrollY ∧ (1 ≤ cv.bounds.height → scrollY < (ofBytes contents).lines)) :
    { cv with highlighter := hl, cursor := c, scrollX := scrollX, scrollY := scrollY }.Drawable
      contents cells b :=
  ⟨h.buffer, hc, h.bounds, h.tabSize,
    ⟨h.inRange.lines, h.inRange.left, h.inRange.right, h.inRange.width, h.inRange.top,
      h.inRange.lastRow, h.inRange.bottom, h.inRange.rows⟩,
    h.wide, hx.1, hx.2, hy.1, hy.2⟩

private theorem withHighlighter (h : cv.Drawable contents cells b) (hl : Highlighter) :
    { cv with highlighter := hl }.Drawable contents cells b :=
  h.moved hl h.line_lt ⟨h.scrollX_nonneg, h.scrollX_le⟩ ⟨h.scrollY_nonneg, h.scrollY_lt⟩

private theorem highlight (h : cv.Drawable contents cells b) :
    Yields cv.highlight (fun _ ↦ True) (·.Drawable contents cells b) := by
  cases hcv' : cv.highlight with
  | error e => trivial
  | ok cv' =>
    rw [highlight_eq_ok hcv']
    exact h.withHighlighter _

private theorem afterFault (h : cv.Drawable contents cells b) :
    cv.afterFault.Drawable contents cells b := by
  unfold CodeView.afterFault
  split
  · exact h
  · exact h.withHighlighter _

end Drawable

private theorem scrollFor_bounds {place scroll room : Int} (hplace : 0 ≤ place)
    (hlimit : 1 ≤ room → place < 2 ^ 63) (hscroll : 0 ≤ scroll) (hroom : room < 2 ^ 63) :
    0 ≤ scrollFor place scroll room ∧ (1 ≤ room → scrollFor place scroll room ≤ place) := by
  unfold scrollFor
  split
  · refine ⟨Int.le_max_right _ _, fun hpos ↦ ?_⟩
    rw [wrap_eq (by omega) (by omega)]
    omega
  · split
    · exact ⟨hplace, fun _ ↦ Int.le_refl place⟩
    · exact ⟨hscroll, fun _ ↦ by omega⟩

namespace Drawable

variable {b : Bounds}

/-- The cursor is moved to any line. -/
theorem setCursor (h : cv.Drawable contents cells b) {c : Cursor}
    (hc : c.line < (ofBytes contents).lines) (s : Screen) :
    Succeeds (cv.setCursor c s) (·.1.Drawable contents cells b) := by
  have hlimit := h.cells_lt
  have hwide := h.wide
  have hcolumn := cv.columnWidth_nonneg
  have hrows := h.inRange.rows
  have hwidth := h.inRange.width
  have hmoved : { cv with cursor := c }.Drawable contents cells b :=
    h.moved cv.highlighter hc ⟨h.scrollX_nonneg, h.scrollX_le⟩ ⟨h.scrollY_nonneg, h.scrollY_lt⟩
  have hscroll : Succeeds { cv with cursor := c }.scrollToCursor (·.Drawable contents cells b) := by
    refine (hmoved.visualCol (h.buffer ▸ hc) c.col).bind fun vcol hvcol ↦ .of_ok ?_
    have hx := scrollFor_bounds hvcol.1 (fun _ ↦ by omega) h.scrollX_nonneg
      (show cv.bounds.width - cv.columnWidth < 2 ^ 63 by omega)
    have hy := scrollFor_bounds (Int.natCast_nonneg c.line)
      (fun hpos : 1 ≤ cv.bounds.height ↦ by omega) h.scrollY_nonneg (by omega)
    refine h.moved cv.highlighter hc ?_ ⟨hy.1, fun hpos ↦ ?_⟩
    · change 0 ≤ scrollFor vcol cv.scrollX (wrap (cv.bounds.width - cv.columnWidth)) ∧
        scrollFor vcol cv.scrollX (wrap (cv.bounds.width - cv.columnWidth)) ≤ cells
      rw [wrap_eq (by omega) (by omega)]
      exact ⟨hx.1, (hx.2 (by omega)).trans hvcol.2⟩
    · have hle := hy.2 hpos
      change scrollFor c.line cv.scrollY cv.bounds.height < _
      omega
  exact hscroll.bind fun cv' h' ↦ (h'.standsIn.showCursor s).bind fun _ _ ↦ .of_ok h'

/-- Any keys leave the view in its rectangle. -/
theorem pressAll {r : CodeView × Screen} (h : r.1.Drawable contents cells b)
    (keys : List KeyPress) : (pressAll keys r).1.Drawable contents cells b :=
  pressAll_keeps (·.Drawable contents cells b)
    (fun r k h ↦ press_keeps (·.Drawable contents cells b)
      (handleKey_yields (fun _ ↦ Drawable.standsIn) (fun h hc s ↦ h.setCursor hc s) h
        h.highlight k r.2) h.afterFault) h keys

end Drawable

/-! ### Drawing a line -/

/-- A tab and a character that fits are drawn between the edges. -/
theorem mem_charPuts {left right x y : Int} {style : Style} {c : Char} (htab : 0 ≤ cv.tabSize)
    (hx : -2 ^ 63 ≤ x) (hlimit : x + cv.charWidth c < 2 ^ 63) (hright : x < right) {p : Put}
    (hp : p ∈ cv.charPuts left right x y style c) :
    p.y = y ∧ left ≤ p.x ∧ p.x + advanceWidth p.char ≤ right := by
  have hnonneg := charWidth_nonneg htab c
  unfold charPuts at hp
  split at hp
  · obtain ⟨col, hcol, rfl⟩ := List.mem_map.mp hp
    rw [mem_interval] at hcol
    exact ⟨rfl, by simp only; omega, show col + (1 : Nat) ≤ right by omega⟩
  · next htabless =>
    split at hp
    · next hfits =>
      rw [wrap_eq (by omega) (by omega), Bool.and_eq_true, decide_eq_true_eq,
        decide_eq_true_eq] at hfits
      rw [List.mem_singleton.mp hp]
      refine ⟨rfl, hfits.1, ?_⟩
      rw [charWidth, if_neg htabless] at hfits
      -- a placeholder takes one cell, and a character that takes none starts in front of the edge
      split
      · next hcontrol =>
        rw [if_pos hcontrol] at hfits
        exact hfits.2
      · next hcontrol =>
        rw [if_neg hcontrol] at hfits
        simp only [advanceWidth]
        omega
    · cases hp

/-- What is drawn of a line lies between the edges, however far the view is scrolled. -/
theorem mem_linePuts {left right y : Int} {plain : Style} (htab : 0 ≤ cv.tabSize)
    (hcells : (cells : Int) < 2 ^ 63) (hleft : -2 ^ 63 ≤ left - cv.scrollX)
    (hscroll : 0 ≤ cv.scrollX) (hlimit : left + cells < 2 ^ 63) {ms : List Match} {front : Int}
    {col : Nat} {text : List Char} (hfront : 0 ≤ front) (htext : front + cv.cellsOf text ≤ cells)
    (hstart : left + front - cv.scrollX < right) {p : Put}
    (hp : p ∈ cv.linePuts left right y plain ms front col text) :
    p.y = y ∧ left ≤ p.x ∧ p.x + advanceWidth p.char ≤ right := by
  induction text generalizing ms front col with
  | nil => cases hp
  | cons c rest ih =>
    have hnonneg := charWidth_nonneg htab c
    have hrest := cellsOf_nonneg htab rest
    rw [cellsOf_cons] at htext
    have hhere {style : Style}
        (hp : p ∈ cv.charPuts left right (left + front - cv.scrollX) y style c) :
        p.y = y ∧ left ≤ p.x ∧ p.x + advanceWidth p.char ≤ right :=
      mem_charPuts htab (by omega) (by omega) hstart hp
    rw [linePuts, wrap_eq (n := left + front - cv.scrollX) (by omega) (by omega),
      wrap_eq (n := front + cv.charWidth c) (by omega) (by omega),
      wrap_eq (n := left + (front + cv.charWidth c) - cv.scrollX) (by omega) (by omega)] at hp
    split at hp
    · exact hhere hp
    · next hmore =>
      rcases List.mem_append.mp hp with hp | hp
      · exact hhere hp
      · exact ih (by omega) (by omega) (by omega) hp

/-! ### Drawing rows -/

private theorem FillColumn.advanceWidth_eq {chars : List Char} {column : Int} {line : Nat}
    (h : FillColumn chars column (cv.numberOf line)) : ∀ c ∈ chars, advanceWidth c = 1 := by
  intro c hc
  rcases h.mem c hc with rfl | hc | rfl
  · decide
  · refine advanceWidth_digit ?_
    unfold numberOf at hc
    split at hc
    · have hdigit : c ∈ Nat.toDigits 10 (line + 1) := by
        change c ∈ (line + 1).repr.toList at hc
        rwa [Nat.repr, String.toList_ofList] at hc
      have hdigit := Nat.isDigit_of_mem_toDigits (by decide) (by decide) hdigit
      rw [Char.isDigit, Bool.and_eq_true, decide_eq_true_eq, decide_eq_true_eq] at hdigit
      exact hdigit
    · cases hc
  · decide +kernel

namespace Drawable

variable {b : Bounds}

/-- A row of the view is filled. -/
theorem rowPuts (h : cv.Drawable contents cells b) {y : Int}
    (hy : y ∈ interval b.y (b.y + b.height)) : Succeeds (cv.rowPuts y) (b.RowFilled y) := by
  obtain rfl := h.bounds
  obtain ⟨hlines, hleft, hright, hwidth, htop, hlast, hbottom, hrows⟩ := h.inRange
  have hcells := h.cells_lt
  have hwide := h.wide
  have hcolumn := cv.columnWidth_nonneg
  have hscrollX := h.scrollX_le
  rw [mem_interval] at hy
  have hscrollY := h.scrollY_lt (by omega)
  obtain ⟨line, -, hline⟩ := exists_line_of_row h.scrollY_nonneg
    (show ((y - cv.bounds.y).toNat : Int) + cv.scrollY < 9223372036854775808 by omega)
  rw [show cv.bounds.y + ((y - cv.bounds.y).toNat : Int) = y by omega] at hline
  have hstart : wrap (cv.bounds.x + cv.columnWidth) = cv.bounds.x + cv.columnWidth :=
    wrap_eq (by omega) (by omega)
  have hstop : wrap (cv.bounds.x + cv.bounds.width) = cv.bounds.x + cv.bounds.width :=
    wrap_eq (by omega) (by omega)
  have hroom : wrap (cv.bounds.width - cv.columnWidth) = cv.bounds.width - cv.columnWidth :=
    wrap_eq (by omega) (by omega)
  have htext : Succeeds (if line < cv.buffer.lines then
      cv.textLinePuts (ColorScheme.styleOf cv.highlighter.scheme .default) line y
      else .ok []) fun text ↦ ∀ p ∈ text, cv.bounds.Holds y p := by
    split
    · next hthere =>
      refine (h.lineChars hthere).bind fun chars hchars ↦ .of_ok fun p hp ↦ ?_
      rw [hstart, hstop] at hp
      obtain ⟨hrow, hfirst, hend⟩ := mem_linePuts h.tabSize hcells (by omega) h.scrollX_nonneg
        (by omega) (Int.le_refl 0) (by omega) (by have := h.scrollX_nonneg; omega) hp
      exact ⟨hrow, by omega, hend⟩
    · exact .of_ok fun p hp ↦ (nomatch hp)
  obtain ⟨text, htext, htextInside⟩ := htext
  obtain ⟨number, hnumber, hfill⟩ := rowPuts_numbered hline htext
  rw [hstart, hroom] at hnumber
  have hone := hfill.advanceWidth_eq
  have hlength := hfill.length_eq
  have hback {p : Put} : p ∈ rectPuts (cv.bounds.x + cv.columnWidth) y
      (cv.bounds.width - cv.columnWidth) 1 ' '
      (ColorScheme.styleOf cv.highlighter.scheme .default) ↔ _ :=
    mem_rectPuts_row (wrap_eq (by omega) (by omega)) (wrap_eq (by omega) (by omega))
  refine ⟨_, hnumber, fun p hp ↦ ?_, fun x hx hx' ↦ ?_⟩
  · rcases List.mem_append.mp hp with hp | hp
    · rcases List.mem_append.mp hp with hp | hp
      · obtain ⟨col, hfirst, hend, rfl⟩ := hback.mp hp
        exact ⟨rfl, by simp only; omega, show col + (1 : Nat) ≤ _ by omega⟩
      · exact htextInside p hp
    · obtain ⟨j, c, hc, rfl⟩ := (mem_textPuts hone).mp hp
      have hj := (List.getElem?_eq_some_iff.mp hc).1
      refine ⟨rfl, by simp only; omega, ?_⟩
      simp only [hone c (List.mem_of_getElem? hc)]
      omega
  · -- the number stands in front of the background
    by_cases hfront : x < cv.bounds.x + cv.columnWidth
    · have hj : (x - cv.bounds.x).toNat < number.length := by omega
      refine ⟨_, List.mem_append_right _
        ((mem_textPuts hone).mpr ⟨_, _, List.getElem?_eq_getElem hj, rfl⟩), ?_⟩
      simp only
      omega
    · exact ⟨_, List.mem_append_left _ (List.mem_append_left _
        (hback.mpr ⟨x, by omega, by omega, rfl⟩)), rfl⟩

/-- The view fills its rectangle. -/
theorem puts (h : cv.Drawable contents cells b) : Succeeds cv.puts b.Filled := by
  obtain ⟨-, -, -, -, -, hlast, hbottom, -⟩ := h.inRange
  unfold CodeView.puts
  rw [wrap_eq (by omega) (by omega), h.bounds]
  exact (Succeeds.mapM_each fun y hy ↦ h.rowPuts hy).bind fun rows ⟨hback, hforth⟩ ↦
    .of_ok (Bounds.filled_of_rows hback hforth)

end Drawable

private theorem StandsIn.showCursor_eq (h : cv.StandsIn contents) (s : Screen) :
    Succeeds (cv.showCursor s) fun s' ↦ s' = s.showCursor s'.cursorX s'.cursorY := by
  obtain ⟨vcol, hvcol⟩ := h.exists_visualCol
  unfold CodeView.showCursor
  split
  · rw [hvcol]
    exact .of_ok rfl
  · exact .of_ok rfl

/-- A view is drawn inside its rectangle, and fills it. Whatever its text and its language are, and
wherever it is placed and scrolled to by keys, it is drawn, unless the pattern engine fails on its
text. Everything it puts on the screen lies in its rectangle, a wide character as a whole, and
something is put into each of the cells; no other cell of the screen is changed. Numbers may be
shown or not, if they leave room for text, and a tab may take any number of cells.

This needs sums of coordinates to stay in their range. -/
theorem draws_inside_bounds {b : Bounds} (hbuffer : cv.buffer = ofBytes contents)
    (hline : cv.cursor.line < (ofBytes contents).lines) (hscroll : cv.scrollX = 0 ∧ cv.scrollY = 0)
    (hbounds : cv.bounds = b) (htab : 0 ≤ cv.tabSize) (hwide : cv.columnWidth < b.width)
    (hrange : cv.InRange contents cells) (keys : List KeyPress) (s₀ s : Screen) :
    Yields ((pressAll keys (cv, s₀)).1.draw s)
      (fun fault ↦ (pressAll keys (cv, s₀)).1.highlight = .error fault) fun r ↦
        ∃ ps, r.1.puts = .ok ps ∧ r.2.cells = (s.putAll ps).cells ∧ b.Filled ps ∧
          (s.Filled → ∀ x y : Nat, x < s.width → y < s.height → ¬ b.Contains x y →
            r.2.cellAt x y = s.cellAt x y) := by
  subst hbounds
  have hstart : cv.Drawable contents cells cv.bounds :=
    ⟨hbuffer, hline, rfl, htab, hrange, hwide, Int.le_of_eq hscroll.1.symm, by omega,
      Int.le_of_eq hscroll.2.symm, fun _ ↦ by omega⟩
  have hpressed := Drawable.pressAll (r := (cv, s₀)) hstart keys
  have hhighlight := hpressed.highlight
  unfold CodeView.draw
  cases hcv' : (pressAll keys (cv, s₀)).1.highlight with
  | error fault => exact rfl
  | ok cv' =>
    have h' := hhighlight.ok hcv'
    obtain ⟨ps, hps, hfilled⟩ := h'.puts
    refine Yields.bind (x := cv'.puts) (P := (· = ps)) ?_ ?_
    · rw [hps]
      exact .of_ok rfl
    · rintro _ rfl
      refine (h'.standsIn.showCursor_eq (s.putAll _)).yields.bind fun s' hs' ↦ .of_ok ?_
      rw [hs']
      exact ⟨_, hps, rfl, hfilled, fun hs x y hx hy ↦ hfilled.cellAt_outside hs hx hy⟩

/-- A text of a combining mark and tabs in a rectangle that leaves four cells for it. -/
def markAndTabs (tabSize : Int) : CodeView :=
  { new "a" "\u0301\t\t\t\t".toUTF8 none with tabSize := tabSize, bounds := ⟨0, 0, 7, 1⟩ }

/-- A tab that is cut at the left edge. -/
theorem draws_inside_bounds_markAndTabs :
    (markAndTabs 5).columnWidth < 7 ∧ (markAndTabs 5).InRange "\u0301\t\t\t\t".toUTF8 20 ∧
      (pressAll [⟨.toEnd, false⟩] (markAndTabs 5, Screen.empty 10 1)).1.scrollX = 17 ∧
      Yields ((pressAll [⟨.toEnd, false⟩] (markAndTabs 5, Screen.empty 10 1)).1.draw
          (Screen.empty 10 1))
        (fun fault ↦ (pressAll [⟨.toEnd, false⟩]
          (markAndTabs 5, Screen.empty 10 1)).1.highlight = .error fault) fun r ↦
        ∃ ps, r.1.puts = .ok ps ∧ r.2.cells = ((Screen.empty 10 1).putAll ps).cells ∧
          Bounds.Filled ⟨0, 0, 7, 1⟩ ps ∧
          ((Screen.empty 10 1).Filled → ∀ x y : Nat, x < 10 → y < 1 →
            ¬ Bounds.Contains ⟨0, 0, 7, 1⟩ x y →
              r.2.cellAt x y = (Screen.empty 10 1).cellAt x y) := by
  have hrange : (markAndTabs 5).InRange "\u0301\t\t\t\t".toUTF8 20 :=
    ⟨by decide +kernel, by decide, by decide, by decide, by decide, by decide, by decide,
      by decide +kernel⟩
  exact ⟨by decide +kernel, hrange, by decide +kernel,
    draws_inside_bounds rfl (by decide +kernel) ⟨rfl, rfl⟩ rfl (by decide) (by decide +kernel)
      hrange _ _ _⟩

/-- Four tabs of 2⁶² - 1 cells come to -4 cells, so that the view is scrolled in front of its text.
The mark, which takes no cell, is then drawn behind the right edge. -/
theorem drawn_outside_bounds_markAndTabs :
    0 ≤ (markAndTabs 4611686018427387903).tabSize ∧
      (markAndTabs 4611686018427387903).columnWidth < 7 ∧
      (pressAll [⟨.toEnd, false⟩] (markAndTabs 4611686018427387903, Screen.empty 10 1)).1.scrollX =
        -4 ∧
      ¬ Bounds.Contains ⟨0, 0, 7, 1⟩ 7 0 ∧
      Succeeds ((pressAll [⟨.toEnd, false⟩]
          (markAndTabs 4611686018427387903, Screen.empty 10 1)).1.draw (Screen.empty 10 1)) fun r ↦
        r.2.cellAt 7 0 ≠ (Screen.empty 10 1).cellAt 7 0 := by
  have hdrawn : Succeeds ((pressAll [⟨.toEnd, false⟩]
      (markAndTabs 4611686018427387903, Screen.empty 10 1)).1.draw (Screen.empty 10 1)) fun r ↦
        (r.2.cellAt 7 0 != (Screen.empty 10 1).cellAt 7 0) = true :=
    Succeeds.of_any (by decide +kernel)
  exact ⟨by decide, by decide +kernel, by decide +kernel, fun h ↦ absurd h.right (by decide),
    hdrawn.imp fun _ hr ↦ bne_iff_ne.mp hr⟩

end CodeView

end CodeViewer
