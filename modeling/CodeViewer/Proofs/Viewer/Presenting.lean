import CodeViewer.Proofs.Scan.Tiling
import CodeViewer.Proofs.Screen.Puts
import CodeViewer.Proofs.Widget.Browsing
import CodeViewer.Viewer.Basic

/-!
# A view keeps presenting its file

A view presents a file if it shows the contents of the file, highlighted in its language, on the
upper rows of the screen, with a cursor on one of the lines that is in sight. Nothing that is done
to the view makes it fail or changes this.
-/

namespace CodeViewer

open Text (Source)

/-! ### Files -/

/-- The pattern engine fails on a file. In a state that a scan of the file comes to, whatever its
nesting limit, a search breaks down inside the engine, or the engine reports a match that leaves the
contents. -/
def SourceFile.EngineFails (f : SourceFile) : Prop :=
  ∃ l maxDepth st, f.language = some l ∧
    Scan.Reaches l.grammar maxDepth (Source.ofText f.contents) st ∧
    l.grammar.SearchError (Source.ofText f.contents) st.pos .outOfText

/-- A file that a machine can hold. Where the pattern engine fails on it, faults are as `E` says. -/
structure SourceFile.Searchable (f : SourceFile) (E : Fault → Prop) : Prop where
  size : f.contents.size < 2 ^ 60
  fails : f.EngineFails → E .outOfRange

/-- The engine does not fail on files in a language with steady patterns. -/
theorem SourceFile.not_engineFails_of_steady {f : SourceFile}
    (h : ∀ l, f.language = some l → l.grammar.wholeName.program = none ∧
      ∀ p ∈ l.grammar.patterns, p.program = none) : ¬ f.EngineFails := by
  rintro ⟨l, maxDepth, st, hl, -, hsearch⟩
  obtain ⟨hname, hpatterns⟩ := h l hl
  exact CompiledGrammar.not_searchError_of_steady hname hpatterns hsearch

/-- Scanning a file meets a fault only if the engine fails on it. -/
theorem Highlighter.fault_of_updateInvalidated {h : Highlighter} {f : SourceFile}
    (hbuffer : h.buffer = Buffer.ofBytes f.contents) (hlanguage : h.language = f.language)
    {fault : Fault} (hfault : h.updateInvalidated.2 = some fault) :
    fault = .outOfRange ∧ f.EngineFails := by
  have hbytes : h.buffer.bytes = f.contents := by rw [hbuffer, Buffer.bytes_ofBytes]
  unfold updateInvalidated at hfault
  split at hfault
  · cases hfault
  · unfold update at hfault
    split at hfault
    · cases hfault
    · next l hl =>
      rw [hbytes] at hfault
      change (scan l.grammar h.maxDepth f.contents).2.bind ScanError.fault? = some fault at hfault
      obtain ⟨e, he, hfault⟩ := Option.bind_eq_some_iff.mp hfault
      cases e with
      | outOfText =>
        obtain ⟨st, hfails⟩ := Scanner.exists_failsAt_of_scan he (by simp)
        have hlanguage' : f.language = some l := hlanguage.symm.trans hl
        exact ⟨(Option.some.inj hfault).symm, l, h.maxDepth, st, hlanguage', hfails.1,
          hfails.searchError⟩
      | tooDeep _ _ _ => cases hfault
      | illegalEntry _ _ _ => cases hfault
      | closedTopLevel => cases hfault
      | canceled => cases hfault
      | badInstruction _ => cases hfault

namespace CodeView

/-! ### Presenting a file -/

/-- A view presents a file on the upper rows of a screen. Its cursor is on one of the lines and in
sight. -/
structure Presents (cv : CodeView) (f : SourceFile) (width height : Nat) (focused : Bool) :
    Prop where
  path : cv.path = f.path
  shows : cv.Shows f.contents
  language : cv.language = f.language
  numbered : cv.lineNumbers = true
  tab : cv.tabSize = 4
  bounds : cv.bounds = Viewer.upperRows width height
  cursor : cv.cursor.line < cv.buffer.lines
  inSight : cv.CursorInSight
  focus : cv.focused = focused

variable {cv : CodeView} {f : SourceFile} {width height : Nat} {focused : Bool}
  {E : Fault → Prop}

private theorem inSight_start {room : Int} : InSight 0 0 room :=
  ⟨Int.le_refl 0, by decide, fun _ ↦ Int.le_refl 0, fun hroom ↦ by omega⟩

/-- A new view presents its file from the start on. -/
theorem presents_viewOf (f : SourceFile) (maxDepth : Int) (width height : Nat) :
    (Viewer.viewOf f maxDepth width height).Presents f width height false := by
  refine ⟨rfl, ⟨rfl, rfl, fun h ↦ Bool.noConfusion h⟩, rfl, rfl, rfl, rfl, Nat.succ_pos _,
    ⟨?_, fun {vcol} hvcol ↦ ?_⟩, rfl⟩
  · exact inSight_start
  · obtain ⟨chars, -, hcells⟩ := bind_eq_ok.mp hvcol
    obtain rfl : (0 : Int) = vcol := Except.ok.inj hcells
    exact inSight_start

private theorem Presents.withFocus (h : cv.Presents f width height focused) (b : Bool) :
    { cv with focused := b }.Presents f width height b :=
  ⟨h.path, ⟨h.shows.buffer, h.shows.scanned, h.shows.upToDate⟩, h.language, h.numbered, h.tab,
    h.bounds, h.cursor, ⟨h.inSight.row, h.inSight.col⟩, rfl⟩

/-- The highlighting is brought up to date. -/
theorem Presents.highlight (h : cv.Presents f width height focused) (hf : f.Searchable E) :
    Yields cv.highlight E (·.Presents f width height focused) := by
  have hbuffer : cv.highlighter.buffer = Buffer.ofBytes f.contents :=
    h.shows.scanned.trans h.shows.buffer
  have hshows := h.shows.updated.1
  have hlanguage := cv.highlighter.updateInvalidated_keeps.2.1.trans h.language
  unfold CodeView.highlight
  split
  · next h' hupdate =>
    rw [hupdate] at hshows hlanguage
    exact ⟨h.path, hshows, hlanguage, h.numbered, h.tab, h.bounds, h.cursor,
      ⟨h.inSight.row, h.inSight.col⟩, h.focus⟩
  · next h' fault hupdate =>
    have hfault : cv.highlighter.updateInvalidated.2 = some fault := by rw [hupdate]
    obtain ⟨rfl, hfails⟩ := Highlighter.fault_of_updateInvalidated hbuffer h.language hfault
    exact hf.fails hfails

/-- The cursor is on a line of the file. -/
theorem Presents.standsIn (h : cv.Presents f width height focused) : cv.StandsIn f.contents := by
  have hline := h.cursor
  rw [h.shows.buffer] at hline
  exact ⟨h.shows.buffer, hline⟩

/-- The token under the cursor is looked up. -/
theorem Presents.tokenAtCursor (h : cv.Presents f width height focused) (hf : f.Searchable E) :
    Yields cv.tokenAtCursor E fun r ↦ r.1.Presents f width height focused :=
  tokenAtCursor_yields (fun _ ↦ Presents.standsIn) (h.highlight hf)

/-- The cells in front of the cursor are counted. -/
theorem Presents.visualCol (h : cv.Presents f width height focused) (hf : f.Searchable E) :
    Succeeds (cv.visualCol cv.cursor.line cv.cursor.col) fun vcol ↦ 0 ≤ vcol ∧ vcol < 2 ^ 62 :=
  visualCol_succeeds h.shows.buffer h.tab hf.size (Int.ofNat_lt.mpr h.cursor) _

/-- The focus is given or taken. -/
theorem Presents.setFocused (h : cv.Presents f width height focused) (b : Bool) (s : Screen) :
    Succeeds (cv.setFocused b s) fun r ↦ r.1.Presents f width height b ∧ s.SameSize r.2 := by
  unfold CodeView.setFocused
  simp only
  split
  · exact ((h.withFocus b).standsIn.showCursor s).bind fun s' hs ↦ .of_ok ⟨h.withFocus b, hs⟩
  · exact .of_ok ⟨h.withFocus b, rfl, rfl⟩

/-- A view that is fitted into other rows, or whose cursor is moved, scrolls to its cursor. -/
theorem Presents.scrollToCursor (h : cv.Presents f width height focused) (hf : f.Searchable E)
    {c : Cursor} (hc : c.line < cv.buffer.lines) {width' height' : Nat} (hwidth : width' < 2 ^ 60)
    (hheight : height' < 2 ^ 60) :
    Succeeds { cv with cursor := c, bounds := Viewer.upperRows width' height' }.scrollToCursor
      fun cv' ↦ cv'.Presents f width' height' focused := by
  have hscroll := h.inSight.scroll_bounds h.shows.buffer h.tab hf.size h.cursor
  have hwide : (width' : Int) < 2 ^ 60 := by omega
  have hlow : -1 ≤ (height' : Int) - 1 := by omega
  have hhigh : (height' : Int) - 1 < 2 ^ 60 := by omega
  let moved : CodeView := { cv with cursor := c, bounds := Viewer.upperRows width' height' }
  have hscrolled := @scrollToCursor_succeeds moved f.contents h.shows.buffer h.tab h.numbered
    hf.size hc (Int.natCast_nonneg width') hwide hlow hhigh hscroll
  refine hscrolled.imp fun cv' ⟨hcv', hsight⟩ ↦ ?_
  rw [hcv'] at hsight ⊢
  exact ⟨h.path, ⟨h.shows.buffer, h.shows.scanned, h.shows.upToDate⟩, h.language, h.numbered, h.tab,
    rfl, hc, hsight, h.focus⟩

/-! ### Moving the cursor -/

/-- The cursor is moved to a line of the file. -/
theorem Presents.setCursor (h : cv.Presents f width height focused) (hf : f.Searchable E)
    (hwidth : width < 2 ^ 60) (hheight : height < 2 ^ 60) {c : Cursor}
    (hc : c.line < (Buffer.ofBytes f.contents).lines) (s : Screen) :
    Succeeds (cv.setCursor c s) fun r ↦ r.1.Presents f width height focused ∧ s.SameSize r.2 := by
  have hline : c.line < cv.buffer.lines := by
    rw [h.shows.buffer]
    exact hc
  have hscrolled := h.scrollToCursor hf hline hwidth hheight
  rw [← h.bounds] at hscrolled
  exact hscrolled.bind fun cv' h' ↦ (h'.standsIn.showCursor s).bind fun s' hs ↦ .of_ok ⟨h', hs⟩

/-- A view and a cursor that may be moved to. -/
def Leads (f : SourceFile) (width height : Nat) (focused : Bool) (r : CodeView × Cursor) : Prop :=
  r.1.Presents f width height focused ∧ r.2.line < (Buffer.ofBytes f.contents).lines

private theorem Presents.line_lt (h : cv.Presents f width height focused) :
    cv.cursor.line < (Buffer.ofBytes f.contents).lines :=
  h.standsIn.line_lt

/-- Every key the view knows leads to a line of the file. -/
theorem Presents.motion (h : cv.Presents f width height focused) (hf : f.Searchable E)
    (k : KeyPress) :
    Yields (cv.motion k) E fun r ↦ ∀ p ∈ r, Leads f width height focused p :=
  motion_yields (fun _ ↦ Presents.standsIn) h (h.highlight hf) k

/-- A key leaves the view with its file. -/
theorem Presents.handleKey (h : cv.Presents f width height focused) (hf : f.Searchable E)
    (hwidth : width < 2 ^ 60) (hheight : height < 2 ^ 60) (k : KeyPress) (s : Screen) :
    Yields (cv.handleKey k s) E fun r ↦
      r.2.1.Presents f width height focused ∧ s.SameSize r.2.2 := by
  refine (h.motion hf k).bind fun r hr ↦ ?_
  cases r with
  | none => exact .of_ok ⟨h, .refl s⟩
  | some p =>
    obtain ⟨h', hc⟩ := hr p rfl
    exact (h'.setCursor hf hwidth hheight hc s).yields.bind fun r hr ↦ .of_ok hr

/-- Going to a line, which need not be there, leaves the view with its file. -/
theorem Presents.gotoLine (h : cv.Presents f width height focused) (hf : f.Searchable E)
    (hwidth : width < 2 ^ 60) (hheight : height < 2 ^ 60) (line : Int) (s : Screen) :
    Succeeds (cv.gotoLine line s) fun r ↦
      r.1.Presents f width height focused ∧ s.SameSize r.2 := by
  unfold CodeView.gotoLine
  rw [h.shows.buffer]
  exact (cv.cursor.setLineCol_isIn _ _).bind fun c hc ↦ h.setCursor hf hwidth hheight hc.1 s

/-! ### Saying what is shown -/

/-- The status bar is told what is shown. -/
theorem Presents.status (h : cv.Presents f width height focused) (hf : f.Searchable E) :
    Yields cv.status E fun r ↦ r.1.Presents f width height focused := by
  refine (h.tokenAtCursor hf).bind fun (cv', token?) h' ↦ ?_
  cases token? with
  | none => exact .of_ok h'
  | some t => exact .of_ok h'

private theorem copyText_succeeds (cv : CodeView) {c : Clipboard} (hc : c.method = .internal)
    (text : ByteArray) (what : String) :
    Succeeds (cv.copyText c text what) fun r ↦ r.view = cv ∧ r.clipboard.method = .internal := by
  unfold copyText Clipboard.write
  rw [hc]
  exact .of_ok ⟨rfl, rfl⟩

/-- The token under the cursor is copied, if there is one. -/
theorem Presents.copyToken (h : cv.Presents f width height focused) (hf : f.Searchable E)
    {c : Clipboard} (hc : c.method = .internal) :
    Yields (cv.copyToken c) E fun r ↦
      r.view.Presents f width height focused ∧ r.clipboard.method = .internal := by
  refine (h.tokenAtCursor hf).bind fun (cv', token?) h' ↦ ?_
  cases token? with
  | none => exact .of_ok ⟨h', hc⟩
  | some t =>
    exact (cv'.copyText_succeeds hc t.text t.cls).yields.imp fun r ⟨hview, hr⟩ ↦ ⟨hview ▸ h', hr⟩

/-- The line of the cursor is copied. -/
theorem Presents.copyLine (h : cv.Presents f width height focused) {c : Clipboard}
    (hc : c.method = .internal) :
    Succeeds (cv.copyLine c) fun r ↦
      r.view.Presents f width height focused ∧ r.clipboard.method = .internal := by
  obtain ⟨bytes, hbytes⟩ := Buffer.line_succeeds (Int.ofNat_lt.mpr h.line_lt)
  unfold CodeView.copyLine currentLine
  rw [h.shows.buffer, hbytes]
  exact (cv.copyText_succeeds hc _ _).imp fun r ⟨hview, hr⟩ ↦ ⟨hview ▸ h, hr⟩

/-! ### Drawing -/

/-- Every row of a view is drawn: it shows a line, or nothing behind the last one. -/
theorem Presents.rowPuts (h : cv.Presents f width height focused) (hf : f.Searchable E)
    (hheight : height < 2 ^ 60) {y : Int} (hy : y ∈ interval 0 ((height : Int) - 1)) :
    ∃ ps, cv.rowPuts y = .ok ps := by
  obtain ⟨row, hrow, rfl⟩ := List.mem_map.mp hy
  rw [List.mem_range] at hrow
  have hscroll := h.inSight.scroll_bounds h.shows.buffer h.tab hf.size h.cursor
  have htop : cv.bounds.y = 0 := by rw [h.bounds]; rfl
  have hshort : row + cv.scrollY < 9223372036854775808 := by omega
  obtain ⟨line, -, hline⟩ := exists_line_of_row hscroll.2.1 hshort
  rw [htop] at hline
  have htext : ∃ text, (if line < cv.buffer.lines then
      cv.textLinePuts (ColorScheme.styleOf cv.highlighter.scheme .default) line (0 + (row : Int))
      else .ok []) = .ok text := by
    split
    · next hthere =>
      obtain ⟨chars, hchars, -⟩ := lineChars_succeeds h.shows.buffer (Int.ofNat_lt.mpr hthere)
      exact ⟨_, by rw [textLinePuts, hchars]; rfl⟩
    · exact ⟨[], rfl⟩
  obtain ⟨text, htext⟩ := htext
  rw [← htop] at hline htext ⊢
  obtain ⟨number, hnumber⟩ := rowPuts_eq hline htext
  exact ⟨_, hnumber⟩

private theorem showCursor_again {s s' : Screen} (h : cv.showCursor s = .ok s') :
    cv.showCursor s' = .ok s' := by
  unfold CodeView.showCursor at h ⊢
  split at h
  · next hfocused =>
    obtain ⟨vcol, hvcol, hs⟩ := bind_eq_ok.mp h
    rw [if_pos hfocused, hvcol, ← Except.ok.inj hs]
    rfl
  · next hfocused =>
    rw [if_neg hfocused]
    rfl

/-- Characters that are put on a screen leave the terminal's cursor where it is shown. -/
theorem showCursor_putAll {s : Screen} (h : cv.showCursor s = .ok s) (ps : List Put) :
    cv.showCursor (s.putAll ps) = .ok (s.putAll ps) := by
  obtain ⟨-, hx, hy⟩ := s.putAll_keeps ps
  unfold CodeView.showCursor at h ⊢
  split at h
  · next hfocused =>
    obtain ⟨vcol, hvcol, hs⟩ := bind_eq_ok.mp h
    have hs := Except.ok.inj hs
    rw [if_pos hfocused, hvcol]
    exact congrArg Except.ok (Screen.showCursor_self
      (hx.trans (congrArg Screen.cursorX hs).symm) (hy.trans (congrArg Screen.cursorY hs).symm))
  · next hfocused =>
    rw [if_neg hfocused]
    rfl

/-- A view is drawn, and the terminal's cursor is shown in it. -/
theorem Presents.draw (h : cv.Presents f width height focused) (hf : f.Searchable E)
    (hheight : height < 2 ^ 60) (s : Screen) :
    Yields (cv.draw s) E fun r ↦ r.1.Presents f width height focused ∧ s.SameSize r.2 ∧
      r.1.showCursor r.2 = .ok r.2 := by
  refine (h.highlight hf).bind fun cv' h' ↦ ?_
  have hbottom : wrap (cv'.bounds.y + cv'.bounds.height) = (height : Int) - 1 := by
    rw [h'.bounds]
    change wrap (0 + ((height : Int) - 1)) = _
    rw [wrap_eq (by omega) (by omega), Int.zero_add]
  obtain ⟨rows, hrows⟩ := Succeeds.mapM fun y hy ↦ h'.rowPuts hf hheight (y := y) hy
  have hputs : cv'.puts = .ok rows.flatten := by
    unfold CodeView.puts
    rw [hbottom, show cv'.bounds.y = 0 by rw [h'.bounds]; rfl, hrows]
    rfl
  rw [hputs]
  obtain ⟨s', hs', hsize⟩ := h'.standsIn.showCursor (s.putAll rows.flatten)
  change Yields (cv'.showCursor (s.putAll rows.flatten) >>= fun s ↦ pure (cv', s)) E _
  rw [hs']
  exact ⟨h', (s.putAll_keeps rows.flatten).1.trans hsize, showCursor_again hs'⟩

end CodeView

end CodeViewer
