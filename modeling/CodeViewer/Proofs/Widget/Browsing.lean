import CodeViewer.Proofs.Buffer.Motions
import CodeViewer.Proofs.Screen.Puts
import CodeViewer.Proofs.Widget.Scrolling

/-!
# Keys leave a view with its text

Whatever keys are pressed, a view goes on showing its text in its language, with the cursor on one
of the lines. This holds for views of every size, and also after a fault of the scan.
-/

namespace CodeViewer.CodeView

open Buffer (ofBytes)

variable {cv cv' : CodeView} {contents : ByteArray}

/-! ### Views with a cursor on a line -/

/-- A view of a text has its cursor on one of the lines. -/
structure StandsIn (cv : CodeView) (contents : ByteArray) : Prop where
  buffer : cv.buffer = ofBytes contents
  line_lt : cv.cursor.line < (ofBytes contents).lines

/-- The byte offset of the cursor of a view. -/
def offset (cv : CodeView) : Except Fault Nat := cv.cursor.offset cv.buffer

/-- The cursor stands somewhere in the text. -/
theorem StandsIn.offset_succeeds (h : cv.StandsIn contents) :
    Succeeds cv.offset (· ≤ contents.size) := by
  rw [offset, h.buffer]
  exact Buffer.offsetOf_le_size h.line_lt _

/-- The cells in front of the cursor are counted. -/
theorem StandsIn.exists_visualCol (h : cv.StandsIn contents) :
    ∃ vcol, cv.visualCol cv.cursor.line cv.cursor.col = .ok vcol := by
  have hline : cv.cursor.line < cv.buffer.lines := by
    rw [h.buffer]
    exact h.line_lt
  obtain ⟨chars, hchars, -⟩ := lineChars_succeeds h.buffer (Int.ofNat_lt.mpr hline)
  exact ⟨_, by rw [visualCol, hchars]; rfl⟩

/-- The terminal's cursor is shown. -/
theorem StandsIn.showCursor (h : cv.StandsIn contents) (s : Screen) :
    Succeeds (cv.showCursor s) s.SameSize := by
  obtain ⟨vcol, hvcol⟩ := h.exists_visualCol
  unfold CodeView.showCursor
  split
  · rw [hvcol]
    exact .of_ok ⟨rfl, rfl⟩
  · exact .of_ok (.refl s)

/-- The cursor is moved to any line, whatever room the view has. -/
theorem setCursor_succeeds (hbuffer : cv.buffer = ofBytes contents) {c : Cursor}
    (hc : c.line < (ofBytes contents).lines) (s : Screen) :
    Succeeds (cv.setCursor c s) fun r ↦
      r.1 = { cv with cursor := c, scrollX := r.1.scrollX, scrollY := r.1.scrollY } := by
  have hmoved : { cv with cursor := c }.StandsIn contents := ⟨hbuffer, hc⟩
  obtain ⟨vcol, hvcol⟩ := hmoved.exists_visualCol
  have hscroll : Succeeds { cv with cursor := c }.scrollToCursor fun cv' ↦
      cv' = { cv with cursor := c, scrollX := cv'.scrollX, scrollY := cv'.scrollY } := by
    rw [scrollToCursor, hvcol]
    exact .of_ok rfl
  refine hscroll.bind fun cv' hcv' ↦ ?_
  have hscrolled : cv'.StandsIn contents := by
    rw [hcv']
    exact ⟨hbuffer, hc⟩
  exact (hscrolled.showCursor s).bind fun _ _ ↦ .of_ok hcv'

/-! ### Where keys lead -/

section Motions

variable {P : CodeView → Prop} {E : Fault → Prop} (hP : ∀ cv, P cv → cv.StandsIn contents)

include hP

/-- The token under the cursor is looked up once the highlighting is up to date. -/
theorem tokenAtCursor_yields (h : Yields cv.highlight E P) :
    Yields cv.tokenAtCursor E fun r ↦ P r.1 := by
  refine h.bind fun cv' h' ↦ ?_
  obtain ⟨pos, hpos, -⟩ := (hP cv' h').offset_succeeds
  rw [offset] at hpos
  rw [hpos]
  exact .of_ok h'

/-- There is a token to go on to, or the cursor stays. -/
theorem nextToken_yields (h : Yields cv.highlight E P) :
    Yields cv.nextToken E fun r ↦ P r.1 ∧ r.2.line < (ofBytes contents).lines := by
  refine (tokenAtCursor_yields hP h).bind fun (cv', token?) h' ↦ ?_
  cases token? with
  | none => exact .of_ok ⟨h', (hP cv' h').line_lt⟩
  | some t =>
    refine .of_ok ⟨h', ?_⟩
    rw [(hP cv' h').buffer]
    exact cv'.cursor.setOffset_lt _

/-- There is a token to go back to, or the cursor stays. -/
theorem prevToken_yields (h : Yields cv.highlight E P) :
    Yields cv.prevToken E fun r ↦ P r.1 ∧ r.2.line < (ofBytes contents).lines := by
  refine h.bind fun cv' h' ↦ ?_
  obtain ⟨pos, hpos, -⟩ := (hP cv' h').offset_succeeds
  rw [offset] at hpos
  rw [hpos, (hP cv' h').buffer]
  change Yields (if pos = 0 then _ else _) E _
  split
  · exact .of_ok ⟨h', (hP cv' h').line_lt⟩
  · split
    · exact .of_ok ⟨h', cv'.cursor.setOffset_lt _⟩
    · exact .of_ok ⟨h', (hP cv' h').line_lt⟩

/-- Every key the view knows leads to a line of the text. -/
theorem motion_yields (hcv : P cv) (h : Yields cv.highlight E P) (k : KeyPress) :
    Yields (cv.motion k) E fun r ↦ ∀ p ∈ r, P p.1 ∧ p.2.line < (ofBytes contents).lines := by
  have hmoved {m : Except Fault Cursor} (hm : Succeeds m (·.line < (ofBytes contents).lines)) :
      Yields (m >>= fun c ↦ pure (some (cv, c))) E fun r ↦
        ∀ p ∈ r, P p.1 ∧ p.2.line < (ofBytes contents).lines :=
    hm.yields.bind fun c hc ↦ .of_ok fun p hp ↦ by
      obtain rfl := Option.some.inj hp
      exact ⟨hcv, hc⟩
  have hplaced {m : Except Fault Cursor} (hm : Succeeds m (·.IsIn (ofBytes contents))) :=
    hmoved (hm.imp fun _ hin ↦ hin.1)
  obtain ⟨hbuffer, hline⟩ := hP cv hcv
  unfold motion
  rw [hbuffer]
  cases k.key with
  | up => exact hplaced cv.cursor.up_isIn
  | down => exact hplaced cv.cursor.down_isIn
  | left =>
    simp only
    split
    · exact (prevToken_yields hP h).bind_some
    · exact hmoved (Cursor.left_lt hline)
  | right =>
    simp only
    split
    · exact (nextToken_yields hP h).bind_some
    · exact hplaced (Cursor.right_isIn hline)
  | home => exact hmoved (m := .ok cv.cursor.home) (.of_ok hline)
  | toEnd => exact hplaced (Cursor.toEnd_isIn hline)
  | pageUp => exact hplaced (cv.cursor.setLineCol_isIn _ _)
  | pageDown => exact hplaced (cv.cursor.setLineCol_isIn _ _)
  | _ => exact fun p hp ↦ nomatch hp

/-- A key moves the cursor to a line of the text, or is not known. -/
theorem handleKey_yields (hmove : ∀ {cv c}, P cv → c.line < (ofBytes contents).lines →
      ∀ s, Succeeds (cv.setCursor c s) fun r ↦ P r.1)
    (hcv : P cv) (h : Yields cv.highlight E P) (k : KeyPress) (s : Screen) :
    Yields (cv.handleKey k s) E fun r ↦ P r.2.1 := by
  refine (motion_yields hP hcv h k).bind fun r hr ↦ ?_
  cases r with
  | none => exact .of_ok hcv
  | some p =>
    obtain ⟨h', hc⟩ := hr p rfl
    exact (hmove h' hc s).yields.bind fun r hr ↦ .of_ok hr

end Motions

/-! ### Browsing -/

/-- A view shows a text, with a limit on the depth of its tokens, in a language, or in none, and has
its cursor on one of the lines. -/
structure Browses (cv : CodeView) (contents : ByteArray) (language : Option Language)
    (maxDepth : Int) : Prop where
  shows : cv.Shows contents
  language : cv.language = language
  maxDepth : cv.highlighter.maxDepth = maxDepth
  line_lt : cv.cursor.line < (ofBytes contents).lines

variable {language : Option Language} {maxDepth : Int}

/-- A new view is at the start of its text. -/
theorem browses_new (path : String) (contents : ByteArray) (language : Option Language) :
    (new path contents language).Browses contents language 0 :=
  ⟨shows_new path contents language, rfl, rfl, Buffer.lines_pos _⟩

/-- The cursor is on a line of the text. -/
theorem Browses.standsIn (h : cv.Browses contents language maxDepth) : cv.StandsIn contents :=
  ⟨h.shows.buffer, h.line_lt⟩

/-- Bringing the highlighting up to date gives the view the tokens of its text. -/
theorem Browses.highlighted (h : cv.Browses contents language maxDepth)
    (hcv' : cv.highlight = .ok cv') :
    cv'.Browses contents language maxDepth ∧ cv'.offset = cv.offset ∧
      cv'.highlighter.tokens.toList = cv.highlighter.scanned contents := by
  have hshows := (h.shows.highlighted hcv').1
  have htokens := h.shows.updated.2.2
  obtain ⟨-, hlanguage, -, hdepth⟩ := cv.highlighter.updateInvalidated_keeps
  obtain rfl := highlight_eq_ok hcv'
  exact ⟨⟨hshows, hlanguage.trans h.language, hdepth.trans h.maxDepth, h.line_lt⟩, rfl, htokens⟩

private theorem Browses.afterFault (h : cv.Browses contents language maxDepth) :
    cv.afterFault.Browses contents language maxDepth := by
  have hshows := h.shows.afterFault
  obtain ⟨-, hlanguage, -, hdepth⟩ := cv.highlighter.updateInvalidated_keeps
  unfold CodeView.afterFault at hshows ⊢
  split
  · exact h
  · next h' fault hupdate =>
    rw [hupdate] at hshows hlanguage hdepth
    exact ⟨hshows, hlanguage.trans h.language, hdepth.trans h.maxDepth, h.line_lt⟩

private theorem Browses.setCursor (h : cv.Browses contents language maxDepth) {c : Cursor}
    (hc : c.line < (ofBytes contents).lines) (s : Screen) :
    Succeeds (cv.setCursor c s) fun r ↦
      r.1.Browses contents language maxDepth ∧ r.1.offset = c.offset (ofBytes contents) := by
  refine (setCursor_succeeds h.shows.buffer hc s).imp fun r hr ↦ ?_
  rw [hr]
  exact ⟨⟨⟨h.shows.buffer, h.shows.scanned, h.shows.upToDate⟩, h.language, h.maxDepth, hc⟩,
    congrArg c.offset h.shows.buffer⟩

/-- A key leaves the view with its text, unless it meets a fault. -/
theorem Browses.handleKey (h : cv.Browses contents language maxDepth) (k : KeyPress) (s : Screen) :
    Yields (cv.handleKey k s) (fun _ ↦ True) (·.2.1.Browses contents language maxDepth) := by
  have hhighlight : Yields cv.highlight (fun _ ↦ True) (·.Browses contents language maxDepth) := by
    cases hcv' : cv.highlight with
    | error e => trivial
    | ok cv' => exact (h.highlighted hcv').1
  exact handleKey_yields (fun _ ↦ Browses.standsIn)
    (fun h hc s ↦ (h.setCursor hc s).imp fun _ hr ↦ hr.1) h hhighlight k s

/-- A view knows a key, and the key leads to a view as `P` says. -/
def Handles (cv : CodeView) (k : KeyPress) (s : Screen) (P : CodeView → Prop) : Prop :=
  Succeeds (cv.handleKey k s) fun r ↦ r.1 = true ∧ P r.2.1

/-- What a key leads to may be weakened. -/
theorem Handles.imp {k : KeyPress} {s : Screen} {P Q : CodeView → Prop} (h : cv.Handles k s P)
    (hpq : ∀ moved, P moved → Q moved) : cv.Handles k s Q :=
  Succeeds.imp h fun r hr ↦ ⟨hr.1, hpq r.2.1 hr.2⟩

/-- A key leads to where it moves the cursor. -/
theorem Browses.handles (h : cv'.Browses contents language maxDepth) {k : KeyPress} {c : Cursor}
    (hmotion : cv.motion k = .ok (some (cv', c))) (hc : c.line < (ofBytes contents).lines)
    (s : Screen) :
    cv.Handles k s fun moved ↦
      moved.Browses contents language maxDepth ∧ moved.offset = c.offset (ofBytes contents) := by
  rw [Handles, CodeView.handleKey, hmotion]
  exact (h.setCursor hc s).bind fun r hr ↦ .of_ok ⟨rfl, hr⟩

/-! ### Pressing keys -/

/-- What a view and its screen come to by a key. -/
def press (r : CodeView × Screen) (k : KeyPress) : CodeView × Screen :=
  match r.1.handleKey k r.2 with
  | .ok (_, cv, s) => (cv, s)
  | .error _ => (r.1.afterFault, r.2)

/-- What a view and its screen come to by some keys, one after the other. -/
def pressAll (keys : List KeyPress) (r : CodeView × Screen) : CodeView × Screen :=
  keys.foldl press r

variable {r : CodeView × Screen}

/-- Pressing a key that a view knows comes to what the key leads to. -/
theorem Handles.press {P : CodeView → Prop} {k : KeyPress} (h : r.1.Handles k r.2 P) :
    P (press r k).1 := by
  obtain ⟨⟨b, cv, s⟩, hok, -, hP⟩ := h
  rw [CodeView.press, hok]
  exact hP

section

variable (P : CodeView → Prop)

/-- What a key and a fault leave as it is, pressing a key does. -/
theorem press_keeps {k : KeyPress}
    (hkey : Yields (r.1.handleKey k r.2) (fun _ ↦ True) fun r ↦ P r.2.1)
    (hfault : P r.1.afterFault) : P (press r k).1 := by
  unfold CodeView.press
  split
  · next hok => exact hkey.ok hok
  · exact hfault

/-- What every key leaves as it is, any keys do. -/
theorem pressAll_keeps (hkey : ∀ r k, P r.1 → P (press r k).1) (h : P r.1)
    (keys : List KeyPress) : P (pressAll keys r).1 := by
  induction keys generalizing r with
  | nil => exact h
  | cons k keys ih => exact ih (hkey r k h)

end

/-- A key leaves the view with its text. -/
theorem Browses.press (h : r.1.Browses contents language maxDepth) (k : KeyPress) :
    (press r k).1.Browses contents language maxDepth :=
  press_keeps (·.Browses contents language maxDepth) (h.handleKey k r.2) h.afterFault

/-- Any keys leave the view with its text. -/
theorem Browses.pressAll (h : r.1.Browses contents language maxDepth) (keys : List KeyPress) :
    (pressAll keys r).1.Browses contents language maxDepth :=
  pressAll_keeps (·.Browses contents language maxDepth) (fun _ k h ↦ h.press k) h keys

end CodeViewer.CodeView
