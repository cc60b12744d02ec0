import CodeViewer.Proofs.Viewer.Session

/-!
# The cursor is always on the screen

While a file is shown, the terminal's cursor stands on the character the cursor of the view is on.
Where a character is drawn is found by adding up the cells of the characters in front of it, which
is how the place of the terminal's cursor is found too; the text is never cut in front of a place in
sight.
-/

namespace CodeViewer

namespace CodeView

variable {cv : CodeView}

/-! ### Drawing the character under the cursor -/

/-- The character that is put on the screen for one. A tab is blank and a control character has a
placeholder. -/
def shownChar (c : Char) : Char :=
  if c == '\t' then ' ' else if Unicode.isControl c then '?' else c

private theorem head?_interval {first last : Int} (h : first < last) :
    (interval first last).head? = some first := by
  obtain ⟨n, hn⟩ : ∃ n, (last - first).toNat = n + 1 := ⟨(last - first).toNat - 1, by omega⟩
  rw [interval, hn, List.range_succ_eq_map, List.map_cons, List.head?_cons]
  simp

private theorem head?_charPuts {left right x y : Int} (style : Style) {c : Char} (hleft : left ≤ x)
    (hright : x < right) (htab : cv.tabSize = 4) (hstart : 0 ≤ left) (hstop : right < 2 ^ 60)
    (hfits : c = '\t' ∨ x + cv.charWidth c ≤ right) :
    (cv.charPuts left right x y style c).head? = some ⟨x, y, shownChar c, style⟩ := by
  have hle := charWidth_le htab c
  have hnonneg : 0 ≤ cv.charWidth c := charWidth_nonneg (by omega) c
  unfold charPuts shownChar
  by_cases hc : (c == '\t') = true
  · have hfirst : max left x = x := Int.max_eq_right hleft
    rw [if_pos hc, if_pos hc, hfirst, List.head?_map, head?_interval (by omega)]
    rfl
  · have hwidth : x + cv.charWidth c ≤ right := by
      rcases hfits with rfl | hfits
      · exact absurd rfl hc
      · exact hfits
    rw [if_neg hc, if_neg hc, if_pos]
    · rfl
    · rw [wrap_eq (by omega) (by omega), Bool.and_eq_true, decide_eq_true_eq, decide_eq_true_eq]
      exact ⟨hleft, hwidth⟩

/-- A character is drawn behind those in front of it, as many cells to the right as they take. -/
theorem linePuts_at {left right y : Int} {plain : Style} {ms : List Match} {cells : Int}
    {start col : Nat} {chars : List Char} {c : Char} (htab : cv.tabSize = 4)
    (hcells : 0 ≤ cells) (hlimit : cells + 4 * chars.length < 2 ^ 62)
    (hleft : 0 ≤ left ∧ left ≤ 20) (hscroll : 0 ≤ cv.scrollX ∧ cv.scrollX ≤ 2 ^ 62 + 32)
    (hc : chars[col]? = some c)
    (hvisible : left + (chars.take col).foldl (fun cells c ↦ wrap (cells + cv.charWidth c)) cells -
      cv.scrollX < right) :
    ∃ style behind, cv.linePuts left right y plain ms cells start chars =
      cv.linePuts left right y plain ms cells start (chars.take col) ++
        (cv.charPuts left right
          (left + (chars.take col).foldl (fun cells c ↦ wrap (cells + cv.charWidth c)) cells -
            cv.scrollX) y style c ++ behind) := by
  induction chars generalizing ms cells start col with
  | nil => cases hc
  | cons d rest ih =>
    have hnonneg : 0 ≤ cv.charWidth d := charWidth_nonneg (by omega) d
    have hle := charWidth_le htab d
    rw [List.length_cons] at hlimit
    cases col with
    | zero =>
      obtain rfl : d = c := Option.some.inj hc
      simp only [List.take_zero, List.foldl_nil, linePuts, List.nil_append]
      rw [wrap_eq (n := left + cells - cv.scrollX) (by omega) (by omega)]
      split
      · exact ⟨_, [], (List.append_nil _).symm⟩
      · exact ⟨_, _, rfl⟩
    | succ col =>
      have hsum : wrap (cells + cv.charWidth d) = cells + cv.charWidth d :=
        wrap_eq (by omega) (by omega)
      have hshort : (rest.take col).length ≤ rest.length := by
        rw [List.length_take]
        exact Nat.min_le_right _ _
      rw [List.take_succ_cons, List.foldl_cons, hsum] at hvisible
      rw [List.take_succ_cons, List.foldl_cons, hsum]
      -- no later character starts further left, so that the line is not cut here
      have hmore := foldl_charWidth_bounds htab (show 0 ≤ cells + cv.charWidth d by omega)
        (show cells + cv.charWidth d + 4 * (rest.take col).length < 9223372036854775808 by omega)
      have hroom : ¬ right ≤ left + (cells + cv.charWidth d) - cv.scrollX := by omega
      obtain ⟨style, behind, hrest⟩ :=
        @ih (ms.dropWhile (·.last < start)) (cells + cv.charWidth d) (start + 1) col (by omega)
          (by omega) hc hvisible
      refine ⟨style, behind, ?_⟩
      rw [linePuts, linePuts]
      simp only [hsum]
      rw [wrap_eq (n := left + (cells + cv.charWidth d) - cv.scrollX) (by omega) (by omega),
        if_neg hroom, if_neg hroom, hrest, List.append_assoc]

variable {f : SourceFile} {width height : Nat} {E : Fault → Prop}

/-- Where a focused view shows the terminal's cursor. -/
theorem Presents.cursor_shown (h : cv.Presents f width height true) (hf : f.Searchable E)
    (hwidth : width < 2 ^ 60) (hrows : 2 ≤ height) (hcolumns : cv.columnWidth < width)
    {s : Screen} (hshown : cv.showCursor s = .ok s) :
    ∃ vcol, cv.visualCol cv.cursor.line cv.cursor.col = .ok vcol ∧
      s.cursorX = cv.columnWidth + vcol - cv.scrollX ∧
      s.cursorY = cv.cursor.line - cv.scrollY ∧
      (cv.columnWidth ≤ s.cursorX ∧ s.cursorX < width) ∧
      0 ≤ s.cursorY ∧ s.cursorY < height - 1 := by
  obtain ⟨vcol, hvcol, hnonneg, hlimit⟩ := h.visualCol hf
  have hcolumn := columnWidth_bounds h.shows.buffer h.numbered hf.size
  have hlines := lines_le h.shows.buffer
  have hline := h.cursor
  have hsize := hf.size
  obtain ⟨hrow, hcol⟩ := h.inSight
  have hcol := hcol hvcol
  rw [h.bounds] at hrow hcol
  change InSight cv.cursor.line cv.scrollY ((height : Int) - 1) at hrow
  change InSight vcol cv.scrollX ((width : Int) - cv.columnWidth) at hcol
  have hfirst := hcol.first (by omega)
  have hlast := hcol.last (by omega)
  have htop := hrow.first (by omega)
  have hbottom := hrow.last (by omega)
  have hx := hcol.nonneg
  have hy := hrow.nonneg
  rw [CodeView.showCursor, if_pos h.focus, hvcol, h.bounds] at hshown
  have hs := Except.ok.inj hshown
  have hcursorX : wrap (0 + cv.columnWidth + vcol - cv.scrollX) = s.cursorX :=
    congrArg Screen.cursorX hs
  have hcursorY : wrap (0 + (cv.cursor.line : Int) - cv.scrollY) = s.cursorY :=
    congrArg Screen.cursorY hs
  rw [wrap_eq (by omega) (by omega)] at hcursorX hcursorY
  exact ⟨vcol, hvcol, by omega, by omega, ⟨by omega, by omega⟩, by omega, by omega⟩

/-- The character under the cursor is drawn where the terminal's cursor is shown. -/
theorem Presents.cursor_drawn (h : cv.Presents f width height true) (hf : f.Searchable E)
    (hwidth : width < 2 ^ 60) (hrows : 2 ≤ height) (hcolumns : cv.columnWidth < width)
    {s : Screen} (hshown : cv.showCursor s = .ok s) {chars : List Char}
    (hchars : cv.lineChars cv.cursor.line = .ok chars) {c : Char}
    (hc : chars[cv.cursor.col]? = some c) :
    ∃ back style behind, cv.rowPuts s.cursorY = .ok (back ++
      (cv.linePuts cv.columnWidth width s.cursorY
        (ColorScheme.styleOf cv.highlighter.scheme .default)
        (cv.highlighter.matchesOf cv.cursor.line).toList 0 0 (chars.take cv.cursor.col) ++
      (cv.charPuts cv.columnWidth width s.cursorX s.cursorY style c ++ behind))) ∧
      (c = '\t' ∨ s.cursorX + cv.charWidth c ≤ width →
        (cv.charPuts cv.columnWidth width s.cursorX s.cursorY style c).head? =
          some ⟨s.cursorX, s.cursorY, shownChar c, style⟩) := by
  obtain ⟨vcol, hvcol, hx, hy, ⟨hfirst, hlast⟩, htop, hbottom⟩ :=
    h.cursor_shown hf hwidth hrows hcolumns hshown
  obtain ⟨chars', hchars', hlength⟩ :=
    lineChars_succeeds h.shows.buffer (Int.ofNat_lt.mpr h.cursor)
  obtain rfl : chars' = chars := Except.ok.inj (hchars'.symm.trans hchars)
  have hcells : cv.textWidth (chars'.take cv.cursor.col) = vcol := by
    rw [CodeView.visualCol, hchars] at hvcol
    exact Except.ok.inj hvcol
  have hcolumn := columnWidth_bounds h.shows.buffer h.numbered hf.size
  have hscroll := h.inSight.scroll_bounds h.shows.buffer h.tab hf.size h.cursor
  have hsize := hf.size
  have hlines := lines_le h.shows.buffer
  have hline := h.cursor
  have hleft : wrap (cv.bounds.x + cv.columnWidth) = cv.columnWidth := by
    rw [h.bounds]
    change wrap (0 + cv.columnWidth) = _
    rw [Int.zero_add, wrap_eq (by omega) (by omega)]
  have hright : wrap (cv.bounds.x + cv.bounds.width) = width := by
    rw [h.bounds]
    change wrap (0 + (width : Int)) = _
    rw [Int.zero_add, wrap_eq (by omega) (by omega)]
  have hrow : wrap (s.cursorY + cv.scrollY - cv.bounds.y) = (cv.cursor.line : Nat) := by
    rw [h.bounds]
    change wrap (s.cursorY + cv.scrollY - 0) = _
    rw [wrap_eq (by omega) (by omega)]
    omega
  -- the line is put together around the character, and the row around the line
  have hvisible :
      cv.columnWidth + cv.textWidth (chars'.take cv.cursor.col) - cv.scrollX < width := by
    omega
  obtain ⟨style, behind, hput⟩ := @linePuts_at cv cv.columnWidth width s.cursorY
    (ColorScheme.styleOf cv.highlighter.scheme .default)
    (cv.highlighter.matchesOf cv.cursor.line).toList 0 0 cv.cursor.col chars' c h.tab
    (Int.le_refl 0) (by omega) ⟨by omega, hcolumn.2⟩ hscroll.1 hc hvisible
  rw [← textWidth, hcells, ← hx] at hput
  have htext : cv.textLinePuts (ColorScheme.styleOf cv.highlighter.scheme .default)
      cv.cursor.line s.cursorY = .ok (cv.linePuts cv.columnWidth width s.cursorY
        (ColorScheme.styleOf cv.highlighter.scheme .default)
        (cv.highlighter.matchesOf cv.cursor.line).toList 0 0 chars') := by
    rw [CodeView.textLinePuts, hchars, hleft, hright]
    rfl
  obtain ⟨number, hnumber⟩ := rowPuts_eq hrow (by rw [if_pos hline]; exact htext)
  rw [hput] at hnumber
  simp only [List.append_assoc] at hnumber
  exact ⟨_, style, _, hnumber, fun hfits ↦
    head?_charPuts style hfirst hlast h.tab (by omega) (by omega) hfits⟩

end CodeView

/-! ### Every frame -/

namespace Session

open Viewer (Possible)

/-- The cursor is always on the screen. Whatever files are shown and whatever came before, changes
to any size included: whenever a frame was drawn while no prompt is open, on a screen with a row for
the view and a column for its text, the terminal's cursor stands as many cells behind the line
numbers and as many rows below the top as the cursor of the view does, taking off what is scrolled.
That is a place for text on the screen. As the row is drawn, it is also the place of the character
under the cursor, which is put there if it fits. The bounds of 2⁶⁰ are far beyond what a machine
holds, and keep sums of coordinates in their range. -/
theorem cursor_in_view {files : List SourceFile} (hne : files ≠ [])
    (hsize : ∀ f ∈ files, f.contents.size < 2 ^ 60) {maxDepth : Int} {screen : Screen}
    (hwidth : screen.width < 2 ^ 60) (hheight : screen.height < 2 ^ 60) {clipboard : Clipboard}
    {events : List Event} (hpossible : ∀ e ∈ events, Possible e)
    (hlength : events.length + 2 ≤ 2 ^ 60) {w : Viewer}
    (hw : w ∈ states screen files maxDepth clipboard events) (hprompt : w.prompt = none)
    (hrows : 2 ≤ w.screen.height) (hcolumns : w.view.columnWidth < w.screen.width) :
    ∃ vcol chars,
      w.view.visualCol w.view.cursor.line w.view.cursor.col = .ok vcol ∧
      w.view.lineChars w.view.cursor.line = .ok chars ∧
      w.screen.cursorX = w.view.columnWidth + vcol - w.view.scrollX ∧
      w.screen.cursorY = w.view.cursor.line - w.view.scrollY ∧
      (w.view.columnWidth ≤ w.screen.cursorX ∧ w.screen.cursorX < w.screen.width) ∧
      (0 ≤ w.screen.cursorY ∧ w.screen.cursorY < w.screen.height - 1) ∧
      ∀ c, chars[w.view.cursor.col]? = some c → ∃ back style behind,
        w.view.rowPuts w.screen.cursorY = .ok (back ++
          (w.view.linePuts w.view.columnWidth w.screen.width w.screen.cursorY
            (ColorScheme.styleOf w.view.highlighter.scheme .default)
            (w.view.highlighter.matchesOf w.view.cursor.line).toList 0 0
            (chars.take w.view.cursor.col) ++
          (w.view.charPuts w.view.columnWidth w.screen.width w.screen.cursorX w.screen.cursorY
            style c ++ behind))) ∧
        (c = '\t' ∨ w.screen.cursorX + w.view.charWidth c ≤ w.screen.width →
          (w.view.charPuts w.view.columnWidth w.screen.width w.screen.cursorX w.screen.cursorY
            style c).head? =
              some ⟨w.screen.cursorX, w.screen.cursorY, CodeView.shownChar c, style⟩) := by
  have hfiles : ∀ f ∈ files, f.Searchable fun _ ↦ True := fun f hf ↦ ⟨hsize f hf, fun _ ↦ trivial⟩
  rcases drawn_of_mem_states hfiles hne hwidth hheight hpossible hlength hw with
    ⟨h, hshown⟩ | ⟨p, h⟩
  · obtain ⟨f, hf, hp⟩ := h.displays
    have hsearchable := hfiles f (List.mem_of_getElem? hf)
    rw [← h.width] at hcolumns ⊢
    rw [← h.height] at hrows ⊢
    obtain ⟨vcol, hvcol, hx, hy, hcols, hlines⟩ :=
      hp.cursor_shown hsearchable h.width_lt hrows hcolumns hshown
    obtain ⟨chars, hchars, -⟩ :=
      CodeView.lineChars_succeeds hp.shows.buffer (Int.ofNat_lt.mpr hp.cursor)
    exact ⟨vcol, chars, hvcol, hchars, hx, hy, hcols, hlines, fun c hc ↦
      hp.cursor_drawn hsearchable h.width_lt hrows hcolumns hshown hchars hc⟩
  · cases hprompt.symm.trans h.prompt

/-- One key goes to the end of a line with a tab and a wide character, for which the window is too
narrow, and another one back by a character. -/
theorem cursor_in_view_scrolled :
    ∃ w ∈ states (Screen.empty 9 3) [⟨"a", "ab\t日c".toUTF8, none⟩] 0 Clipboard.empty
        [.ofKey .toEnd, .ofKey .left],
      (w.view.cursor.col = 4 ∧ 0 < w.view.scrollX) ∧ w.view.columnWidth ≤ w.screen.cursorX ∧
        w.screen.cursorX < w.screen.width := by
  have htest : (states (Screen.empty 9 3) [⟨"a", "ab\t日c".toUTF8, none⟩] 0 Clipboard.empty
      [.ofKey .toEnd, .ofKey .left]).any (fun w ↦ decide (w.view.cursor.col = 4) &&
        decide (0 < w.view.scrollX) && w.prompt.isNone && decide (2 ≤ w.screen.height) &&
        decide (w.view.columnWidth < w.screen.width)) = true := by
    decide +kernel
  obtain ⟨w, hw, htest⟩ := List.any_eq_true.mp htest
  simp only [Bool.and_eq_true, decide_eq_true_eq, Option.isNone_iff_eq_none] at htest
  obtain ⟨⟨⟨hplace, hprompt⟩, hrows⟩, hcolumns⟩ := htest
  have hsize : ∀ f ∈ [SourceFile.mk "a" "ab\t日c".toUTF8 none], f.contents.size < 2 ^ 60 := by
    intro f hf
    rw [List.mem_singleton.mp hf]
    exact show "ab\t日c".toUTF8.size < 2 ^ 60 by decide +kernel
  have hpossible : ∀ e ∈ [Event.ofKey .toEnd, .ofKey .left], Possible e := by
    simp [Possible, Event.ofKey]
  obtain ⟨_, _, -, -, -, -, hcols, -⟩ := cursor_in_view (List.cons_ne_nil _ _) hsize
    (show (Screen.empty 9 3).width < 2 ^ 60 by decide)
    (show (Screen.empty 9 3).height < 2 ^ 60 by decide) hpossible (by decide) hw hprompt hrows
    hcolumns
  exact ⟨w, hw, hplace, hcols⟩

end Session

end CodeViewer
