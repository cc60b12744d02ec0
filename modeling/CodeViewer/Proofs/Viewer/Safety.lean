import CodeViewer.Proofs.Viewer.Presenting
import CodeViewer.Proofs.Widget.InputField
import CodeViewer.Viewer.Basic

/-!
# The viewer is never at a loss

Between two events the viewer is in one of two modes. While it is viewing, the view of the current
file has the focus. While it is asking for a line, the prompt has it. In both the view presents the
current file on the upper rows of the screen and the prompt, if there is one, stands in the last
row. Every event leads from one mode to the same or the other one, or ends the program. The viewer
meets no fault of its own; the pattern engine may fail on a file that is scanned.
-/

namespace CodeViewer

namespace Viewer

variable {files : List SourceFile} {v v' : Viewer} {p : LinePrompt} {n : Nat} {b : Bool}
  {E : Fault → Prop}

/-! ### The two modes -/

/-- A viewer of some files knows the size of its screen, which a machine can hold, and has a
clipboard. -/
structure Framed (files : List SourceFile) (v : Viewer) : Prop where
  files_eq : v.files = files
  width : v.width = v.screen.width
  height : v.height = v.screen.height
  width_lt : v.width < 2 ^ 60
  height_lt : v.height < 2 ^ 60
  clipboard : v.clipboard.method = .internal

/-- The viewer presents its current file, which is one of the files. -/
def Displays (files : List SourceFile) (v : Viewer) (focused : Bool) : Prop :=
  ∃ f, files[v.current]? = some f ∧ v.view.Presents f v.width v.height focused

/-- The viewer shows a file. No prompt is open and the view has the focus. -/
structure Viewing (files : List SourceFile) (v : Viewer) : Prop extends Framed files v where
  displays : v.Displays files true
  focus : v.focus = .view
  prompt : v.prompt = none

/-- The viewer asks for a line. The prompt is open in the last row, holds at most `n` characters and
has the focus. -/
structure Asking (files : List SourceFile) (v : Viewer) (p : LinePrompt) (n : Nat) : Prop
    extends Framed files v where
  displays : v.Displays files false
  focus : v.focus = .prompt
  prompt : v.prompt = some p
  bounds : p.field.bounds = lastRow v.width v.height
  focused : p.field.focused = true
  inOrder : p.field.InOrder n

/-- The viewer is in one of its two modes. A prompt holds at most `n` characters. -/
def Sound (files : List SourceFile) (v : Viewer) (n : Nat) : Prop :=
  v.Viewing files ∨ ∃ p, v.Asking files p n

/-- Two viewers that may differ in their views, in what is on their screens and in what they report
only. -/
structure Alike (v v' : Viewer) : Prop where
  files : v'.files = v.files
  width : v'.width = v.width
  height : v'.height = v.height
  current : v'.current = v.current
  focus : v'.focus = v.focus
  prompt : v'.prompt = v.prompt
  clipboard : v'.clipboard.method = v.clipboard.method
  screen : v.screen.SameSize v'.screen

private theorem Alike.withView (v : Viewer) (cv : CodeView) {s : Screen}
    (hsize : v.screen.SameSize s) :
    v.Alike { v.withView cv with screen := s } :=
  ⟨rfl, rfl, rfl, rfl, rfl, rfl, rfl, hsize⟩

/-- The screen is of a size a machine can hold. -/
theorem Framed.screen_lt (h : v.Framed files) :
    v.screen.width < 2 ^ 60 ∧ v.screen.height < 2 ^ 60 :=
  ⟨h.width ▸ h.width_lt, h.height ▸ h.height_lt⟩

private theorem Framed.alike (h : v.Framed files) (ha : v.Alike v') : v'.Framed files :=
  ⟨ha.files.trans h.files_eq, ha.width.trans (h.width.trans ha.screen.1.symm),
    ha.height.trans (h.height.trans ha.screen.2.symm), ha.width ▸ h.width_lt,
    ha.height ▸ h.height_lt, ha.clipboard.trans h.clipboard⟩

private theorem Viewing.alike (h : v.Viewing files) (ha : v.Alike v')
    (hd : v'.Displays files true) :
    v'.Viewing files :=
  ⟨h.toFramed.alike ha, hd, ha.focus.trans h.focus, ha.prompt.trans h.prompt⟩

private theorem Asking.alike (h : v.Asking files p n) (ha : v.Alike v')
    (hd : v'.Displays files false) :
    v'.Asking files p n :=
  ⟨h.toFramed.alike ha, hd, ha.focus.trans h.focus, ha.prompt.trans h.prompt,
    by rw [ha.width, ha.height]; exact h.bounds, h.focused, h.inOrder⟩

/-- The bound on the characters of a prompt may be raised. -/
theorem Asking.mono (h : v.Asking files p n) {m : Nat} (hle : n ≤ m) : v.Asking files p m :=
  ⟨h.toFramed, h.displays, h.focus, h.prompt, h.bounds, h.focused, h.inOrder.mono hle⟩

private theorem Asking.becomes (h : v.Asking files p n) {m : Nat} {field : InputField} {s : Screen}
    (hfield : p.field.Becomes v.screen m (field, s)) :
    ({ v with prompt := some ⟨field⟩, screen := s } : Viewer).Asking files ⟨field⟩ m :=
  ⟨⟨h.files_eq, h.width.trans hfield.size.1.symm, h.height.trans hfield.size.2.symm, h.width_lt,
    h.height_lt, h.clipboard⟩, h.displays, h.focus, rfl, hfield.bounds.trans h.bounds,
    hfield.focused.trans h.focused, hfield.inOrder⟩

private theorem Sound.mono (h : v.Sound files n) {m : Nat} (hle : n ≤ m) : v.Sound files m := by
  rcases h with h | ⟨p, h⟩
  · exact .inl h
  · exact .inr ⟨p, h.mono hle⟩

private theorem Sound.screen_lt (h : v.Sound files n) :
    v.screen.width < 2 ^ 60 ∧ v.screen.height < 2 ^ 60 := by
  rcases h with h | ⟨p, h⟩
  · exact h.screen_lt
  · exact h.screen_lt

/-- The viewer is in one of its two modes and was drawn: while a file is shown, the terminal's
cursor stands where the view shows it. -/
def Drawn (files : List SourceFile) (v : Viewer) (n : Nat) : Prop :=
  (v.Viewing files ∧ v.view.showCursor v.screen = .ok v.screen) ∨ ∃ p, v.Asking files p n

/-- A viewer that was drawn is in one of its modes. -/
theorem Drawn.sound (h : v.Drawn files n) : v.Sound files n := by
  rcases h with h | h
  · exact .inl h.1
  · exact .inr h

/-- The bound on the characters of a prompt may be raised while it is drawn. -/
theorem Drawn.mono (h : v.Drawn files n) {m : Nat} (hle : n ≤ m) : v.Drawn files m := by
  rcases h with h | ⟨p, h⟩
  · exact .inl h
  · exact .inr ⟨p, h.mono hle⟩

private theorem Displays.current_lt (h : v.Displays files b) : v.current < files.length := by
  obtain ⟨f, hf, -⟩ := h
  exact (List.getElem?_eq_some_iff.mp hf).1

/-! ### Steps that scan no file -/

private theorem Framed.focusPrompt (h : v.Framed files) (hd : v.Displays files false)
    {field : InputField} (hfield : field.InOrder n) (hn : n ≤ 2 ^ 60)
    (hbounds : field.bounds = lastRow v.width v.height) :
    (v.focusPrompt ⟨field⟩).Asking files ⟨(field.setFocused true v.screen).1⟩ n := by
  have hfocused := hfield.setFocused hn true v.screen
  exact ⟨⟨h.files_eq, h.width.trans hfocused.size.1.symm, h.height.trans hfocused.size.2.symm,
    h.width_lt, h.height_lt, h.clipboard⟩, hd, rfl, rfl, hfocused.bounds.trans hbounds,
    hfocused.focused, hfocused.inOrder⟩

private theorem Viewing.drawLastRow (h : v.Viewing files) :
    Succeeds v.drawLastRow fun v' ↦ ∃ ps, v' = { v with screen := v.screen.putAll ps } := by
  obtain ⟨ps, hps⟩ := v.bar.draw_succeeds v.screen
  unfold Viewer.drawLastRow
  rw [h.prompt]
  simp only
  rw [hps]
  exact .of_ok ⟨ps, rfl⟩

private theorem Asking.drawLastRow (h : v.Asking files p n) (hn : n ≤ 2 ^ 60) :
    Succeeds v.drawLastRow fun v' ↦ ∃ p', v'.Asking files p' n := by
  unfold Viewer.drawLastRow
  rw [h.prompt]
  refine (h.inOrder.draw hn v.screen).bind fun (field, s) hfield ↦ .of_ok ⟨⟨field⟩, ?_⟩
  exact h.becomes hfield

private theorem Viewing.afterCopy (h : v.Viewing files) {f : SourceFile}
    (hf : files[v.current]? = some f)
    {r : CopyResult} (hr : r.view.Presents f v.width v.height true ∧
      r.clipboard.method = .internal) : (v.afterCopy r).Viewing files :=
  h.alike ⟨rfl, rfl, rfl, rfl, rfl, rfl, hr.2.trans h.clipboard.symm, .refl _⟩ ⟨f, hf, hr.1⟩

/-- A viewer that is fitted into its screen. -/
structure Refits (v v' : Viewer) : Prop where
  files : v'.files = v.files
  screen : v'.screen = v.screen
  width : v'.width = v.screen.width
  height : v'.height = v.screen.height
  focus : v'.focus = v.focus
  prompt : v'.prompt = v.prompt.map fun p ↦
    ⟨{ p.field with bounds := lastRow v.screen.width v.screen.height }⟩
  clipboard : v'.clipboard.method = v.clipboard.method

private theorem Refits.framed (h : v.Refits v') (hfiles : v.files = files)
    (hclipboard : v.clipboard.method = .internal) (hwidth : v.screen.width < 2 ^ 60)
    (hheight : v.screen.height < 2 ^ 60) : v'.Framed files :=
  ⟨h.files.trans hfiles, by rw [h.width, h.screen], by rw [h.height, h.screen], h.width ▸ hwidth,
    h.height ▸ hheight, h.clipboard.trans hclipboard⟩

/-- Events a terminal may report: screens are of a size a machine can hold. -/
def Possible : Event → Prop
  | .resize (some (width, height)) => width < 2 ^ 60 ∧ height < 2 ^ 60
  | .resize none => True
  | .key _ => True

section

variable (hfiles : ∀ f ∈ files, f.Searchable E)

include hfiles

private theorem Displays.searchable (h : v.Displays files b) :
    ∃ f, files[v.current]? = some f ∧ f.Searchable E ∧ v.view.Presents f v.width v.height b := by
  obtain ⟨f, hf, hp⟩ := h
  exact ⟨f, hf, hfiles f (List.mem_of_getElem? hf), hp⟩

/-! ### The focus -/

private theorem Framed.focusView (h : v.Framed files)
    (hd : v.Displays files b) (hprompt : v.prompt = none) :
    Succeeds v.focusView (·.Viewing files) := by
  obtain ⟨f, hf, -, hp⟩ := hd.searchable hfiles
  refine (hp.setFocused true v.screen).bind
    fun (cv, s) ⟨hcv, hsize⟩ ↦ .of_ok ⟨?_, ⟨f, hf, hcv⟩, rfl, hprompt⟩
  exact ⟨h.files_eq, h.width.trans hsize.1.symm, h.height.trans hsize.2.symm, h.width_lt,
    h.height_lt, h.clipboard⟩

private theorem Viewing.dropFocus (h : v.Viewing files) :
    Succeeds v.dropFocus fun v' ↦ v.Alike v' ∧ v'.Displays files false := by
  obtain ⟨f, hf, -, hp⟩ := h.displays.searchable hfiles
  unfold Viewer.dropFocus
  rw [h.focus]
  exact (hp.setFocused false v.screen).bind
    fun (cv, s) ⟨hcv, hsize⟩ ↦ .of_ok
      ⟨⟨rfl, rfl, rfl, rfl, h.focus.symm, rfl, rfl, hsize⟩, ⟨f, hf, hcv⟩⟩

/-! ### Showing files -/

private theorem Framed.display (h : v.Framed files)
    {f : SourceFile} (hf : files[v.current]? = some f) (hprompt : v.prompt = none) :
    Yields (v.display f) E (·.Viewing files) := by
  have hshown : ({ v with view := viewOf f v.maxDepth v.width v.height } : Viewer).Displays
      files false := ⟨f, hf, CodeView.presents_viewOf f v.maxDepth v.width v.height⟩
  have hframed : ({ v with view := viewOf f v.maxDepth v.width v.height } : Viewer).Framed
      files := ⟨h.files_eq, h.width, h.height, h.width_lt, h.height_lt, h.clipboard⟩
  refine (hframed.focusView hfiles hshown hprompt).yields.bind fun v' hv' ↦ ?_
  obtain ⟨f', hf', hs', hp⟩ := hv'.displays.searchable hfiles
  refine (hp.highlight hs').bind fun cv hcv ↦ .of_ok ?_
  exact hv'.alike ⟨rfl, rfl, rfl, rfl, rfl, rfl, rfl, .refl _⟩ ⟨f', hf', hcv⟩

/-- Another file is shown. -/
theorem Viewing.switchTo (h : v.Viewing files) {i : Nat}
    (hi : i < files.length) : Yields (v.switchTo i) E (·.Viewing files) := by
  have hf : v.files[i]? = some files[i] := by
    rw [h.files_eq]
    exact List.getElem?_eq_getElem hi
  unfold Viewer.switchTo
  rw [hf]
  refine (h.dropFocus hfiles).yields.bind fun v' ⟨ha, _⟩ ↦ ?_
  have h' := h.toFramed.alike ha
  have hframed : ({ v' with current := i } : Viewer).Framed files :=
    ⟨h'.files_eq, h'.width, h'.height, h'.width_lt, h'.height_lt, h'.clipboard⟩
  exact hframed.display hfiles (List.getElem?_eq_getElem hi) (ha.prompt.trans h.prompt)

/-- A new viewer shows its first file. -/
theorem new_viewing (hne : files ≠ []) (maxDepth : Int)
    {screen : Screen} (hwidth : screen.width < 2 ^ 60) (hheight : screen.height < 2 ^ 60)
    {clipboard : Clipboard} (hclipboard : clipboard.method = .internal) (counters : Counters)
    (log : Log) :
    Yields (new files maxDepth screen clipboard counters log) E (·.Viewing files) := by
  have hfirst := List.getElem?_eq_getElem (List.length_pos_iff.mpr hne)
  unfold new
  rw [hfirst]
  exact Framed.display hfiles ⟨rfl, rfl, rfl, hwidth, hheight, hclipboard⟩ hfirst rfl

/-! ### Drawing -/

private theorem Displays.updateBar (h : v.Displays files b) :
    Yields v.updateBar E fun v' ↦ v.Alike v' ∧ v'.Displays files b := by
  obtain ⟨f, hf, hs, hp⟩ := h.searchable hfiles
  exact (hp.status hs).bind fun (cv, left, right) hcv ↦
    .of_ok ⟨⟨rfl, rfl, rfl, rfl, rfl, rfl, rfl, .refl _⟩, ⟨f, hf, hcv⟩⟩

private theorem Framed.drawView (h : v.Framed files) (hd : v.Displays files b) :
    Yields (v.view.draw v.screen.clear) E fun r ↦
      v.Alike { v.withView r.1 with screen := r.2 } ∧
        ({ v.withView r.1 with screen := r.2 } : Viewer).Displays files b ∧
        r.1.showCursor r.2 = .ok r.2 := by
  obtain ⟨f, hf, hs, hp⟩ := hd.searchable hfiles
  exact (hp.draw hs h.height_lt v.screen.clear).imp
    fun r ⟨hcv, hsize, hcursor⟩ ↦ ⟨.withView v r.1 hsize, ⟨f, hf, hcv⟩, hcursor⟩

/-- While a file is shown, everything is drawn, and the terminal's cursor is shown in the view. -/
theorem Viewing.draw (h : v.Viewing files) :
    Yields v.draw E fun v' ↦ v'.Viewing files ∧ v'.view.showCursor v'.screen = .ok v'.screen := by
  refine (h.displays.updateBar hfiles).bind fun v₁ h₁ ↦ ?_
  have h₁ := h.alike h₁.1 h₁.2
  refine (h₁.toFramed.drawView hfiles h₁.displays).bind fun r h₂ ↦ ?_
  obtain ⟨ha₂, hd₂, hcursor⟩ := h₂
  have h₂ := h₁.alike ha₂ hd₂
  refine h₂.drawLastRow.yields.imp fun v' h' ↦ ?_
  obtain ⟨ps, rfl⟩ := h'
  exact ⟨h₂.alike ⟨rfl, rfl, rfl, rfl, rfl, rfl, rfl, (r.2.putAll_keeps ps).1⟩ hd₂,
    CodeView.showCursor_putAll hcursor ps⟩

/-- While a line is asked for, everything is drawn. -/
theorem Asking.draw (h : v.Asking files p n)
    (hn : n ≤ 2 ^ 60) : Yields v.draw E fun v' ↦ ∃ p', v'.Asking files p' n := by
  refine (h.displays.updateBar hfiles).bind fun v₁ h₁ ↦ ?_
  have h₁ := h.alike h₁.1 h₁.2
  refine (h₁.toFramed.drawView hfiles h₁.displays).bind fun r h₂ ↦ ?_
  exact ((h₁.alike h₂.1 h₂.2.1).drawLastRow hn).yields

/-! ### Events -/

/-- The prompt is opened. -/
theorem Viewing.openPrompt (h : v.Viewing files) :
    Succeeds v.openPrompt fun v' ↦ ∃ p, v'.Asking files p 0 := by
  have hwidth : (v.width : Int) < 2 ^ 60 := by
    have hlt := h.width_lt
    omega
  have hfield := LinePrompt.inOrder_new (b := lastRow v.width v.height)
    (Int.natCast_nonneg v.width) hwidth
  refine (h.dropFocus hfiles).bind fun v' h' ↦ .of_ok ?_
  obtain ⟨ha, hd⟩ := h'
  have hplace : lastRow v.width v.height = lastRow v'.width v'.height := by
    rw [ha.width, ha.height]
  exact ⟨_, (h.toFramed.alike ha).focusPrompt hd hfield (Nat.zero_le _) hplace⟩

/-- The prompt is closed. -/
theorem Asking.closePrompt (h : v.Asking files p n)
    (hn : n ≤ 2 ^ 60) : Succeeds v.closePrompt (·.Viewing files) := by
  have hsize := (h.inOrder.setFocused hn false v.screen).size
  unfold Viewer.closePrompt Viewer.dropFocus
  rw [h.focus, h.prompt]
  exact Framed.focusView hfiles ⟨h.files_eq, h.width.trans hsize.1.symm,
    h.height.trans hsize.2.symm, h.width_lt, h.height_lt, h.clipboard⟩ h.displays rfl

/-- A line is gone to and the prompt is closed. -/
theorem Asking.gotoLine (h : v.Asking files p n) (hn : n ≤ 2 ^ 60) (line : Int) :
    Succeeds (v.view.gotoLine line v.screen >>= fun r ↦
      Viewer.closePrompt { v.withView r.1 with screen := r.2 }) (·.Viewing files) := by
  obtain ⟨f, hf, hs, hp⟩ := h.displays.searchable hfiles
  refine (hp.gotoLine hs h.width_lt h.height_lt line v.screen).bind fun r hr ↦ ?_
  exact (h.alike (.withView v r.1 hr.2) ⟨f, hf, hr.1⟩).closePrompt hfiles hn

/-- A key is passed on to the prompt, which may be closed by it. -/
theorem Asking.promptKey (h : v.Asking files p n)
    (hn : n < 2 ^ 60) (k : Key) : Succeeds (v.promptKey p k) (·.Sound files (n + 1)) := by
  have hbecomes := LinePrompt.handleKey_becomes h.inOrder hn k v.screen
  unfold Viewer.promptKey
  generalize p.handleKey k v.screen = r at hbecomes
  obtain ⟨handled, p', s, answer?⟩ := r
  have h' := h.becomes hbecomes
  cases answer? with
  | none => exact .of_ok (.inr ⟨p', h'⟩)
  | some answer =>
    cases answer with
    | cancelled => exact (h'.closePrompt hfiles hn).imp fun _ ↦ .inl
    | chosen line => exact (h'.gotoLine hfiles hn line).imp fun _ ↦ .inl

/-- A key is passed on to the view. -/
theorem Viewing.focusedKey (h : v.Viewing files)
    (k : KeyPress) : Yields (v.focusedKey k) E (·.Viewing files) := by
  obtain ⟨f, hf, hs, hp⟩ := h.displays.searchable hfiles
  unfold Viewer.focusedKey
  rw [h.focus]
  refine (hp.handleKey hs h.width_lt h.height_lt k v.screen).bind fun r hr ↦ .of_ok ?_
  exact h.alike (.withView v r.2.1 hr.2) ⟨f, hf, hr.1⟩

/-- A key ends the program, opens the prompt or leaves a file shown. -/
theorem Viewing.viewKey (h : v.Viewing files)
    (k : KeyPress) : Yields (v.viewKey k) E fun r ↦ ∀ v' ∈ r, v'.Sound files 0 := by
  have hlt := h.displays.current_lt
  obtain ⟨f, hf, hs, hp⟩ := h.displays.searchable hfiles
  have hcopied {x : Except Fault CopyResult}
      (hx : Yields x E fun r ↦ r.view.Presents f v.width v.height true ∧
        r.clipboard.method = .internal) :
      Yields (x >>= fun r ↦ pure (some (v.afterCopy r))) E fun r ↦ ∀ v' ∈ r, v'.Sound files 0 :=
    hx.bind fun r hr ↦ .of_ok fun w hw ↦ Option.some.inj hw ▸ .inl (h.afterCopy hf hr)
  unfold Viewer.viewKey
  simp only
  rw [h.files_eq]
  split
  · exact fun v' hv' ↦ nomatch hv'
  · exact fun v' hv' ↦ nomatch hv'
  · exact ((h.switchTo hfiles (Nat.mod_lt _ (by omega))).imp fun _ ↦ .inl).bind_some
  · exact ((h.switchTo hfiles (Nat.mod_lt _ (by omega))).imp fun _ ↦ .inl).bind_some
  · exact hcopied (hp.copyToken hs h.clipboard)
  · exact hcopied (hp.copyLine h.clipboard).yields
  · exact ((h.openPrompt hfiles).yields.imp fun _ ↦ .inr).bind_some
  · exact ((h.focusedKey hfiles k).imp fun _ ↦ .inl).bind_some

private theorem Displays.refit (h : v.Displays files b)
    (hwidth : v.screen.width < 2 ^ 60) (hheight : v.screen.height < 2 ^ 60) :
    Succeeds v.refit fun v' ↦ v.Refits v' ∧ v'.Displays files b := by
  obtain ⟨f, hf, hs, hp⟩ := h.searchable hfiles
  have hscrolled := hp.scrollToCursor hs hp.cursor hwidth hheight
  have hbounds : v.view.bounds.withSize v.screen.width ((v.screen.height : Int) - 1) =
      upperRows v.screen.width v.screen.height := by
    rw [hp.bounds]
    rfl
  unfold Viewer.refit
  simp only
  rw [hbounds]
  exact hscrolled.bind fun cv hcv ↦ .of_ok ⟨⟨rfl, rfl, rfl, rfl, rfl, rfl, rfl⟩, ⟨f, hf, hcv⟩⟩

/-- Everything is fitted into a screen of any size. -/
theorem Sound.refit (h : v.Sound files n) {s : Screen}
    (hwidth : s.width < 2 ^ 60) (hheight : s.height < 2 ^ 60) :
    Succeeds (Viewer.refit { v with screen := s }) (·.Sound files n) := by
  rcases h with h | ⟨p, h⟩
  · have hd : ({ v with screen := s } : Viewer).Displays files true := h.displays
    refine (hd.refit hfiles hwidth hheight).imp fun v' h' ↦ .inl ?_
    have hprompt := h'.1.prompt
    rw [h.prompt] at hprompt
    exact ⟨h'.1.framed h.files_eq h.clipboard hwidth hheight, h'.2, h'.1.focus.trans h.focus,
      hprompt⟩
  · have hd : ({ v with screen := s } : Viewer).Displays files false := h.displays
    refine (hd.refit hfiles hwidth hheight).imp fun v' h' ↦ .inr ?_
    have hprompt := h'.1.prompt
    rw [h.prompt] at hprompt
    have hwide : (s.width : Int) < 2 ^ 60 := by omega
    refine ⟨_, h'.1.framed h.files_eq h.clipboard hwidth hheight, h'.2, h'.1.focus.trans h.focus,
      hprompt, ?_, h.focused, h.inOrder.withBounds (Int.natCast_nonneg s.width) hwide⟩
    rw [h'.1.width, h'.1.height]

/-! ### Acting on events -/

/-- While a file is shown, every key is acted on. -/
theorem Viewing.key (h : v.Viewing files) (k : KeyPress) :
    Yields (v.step (.key k)) E fun r ↦ ∀ v' ∈ r, v'.Sound files 0 := by
  have hread : ({ v with message := "" } : Viewer).Viewing files :=
    h.alike ⟨rfl, rfl, rfl, rfl, rfl, rfl, rfl, .refl _⟩ h.displays
  unfold Viewer.step
  simp only
  split
  · next p hp => cases hp.symm.trans h.prompt
  · exact hread.viewKey hfiles k

/-- While a line is asked for, every key is acted on. -/
theorem Asking.key (h : v.Asking files p n) (hn : n < 2 ^ 60) (k : KeyPress) :
    Yields (v.step (.key k)) E fun r ↦ ∀ v' ∈ r, v'.Sound files (n + 1) := by
  have hread : ({ v with message := "" } : Viewer).Asking files p n :=
    h.alike ⟨rfl, rfl, rfl, rfl, rfl, rfl, rfl, .refl _⟩ h.displays
  unfold Viewer.step
  simp only
  split
  · next p' hp =>
    obtain rfl : p' = p := Option.some.inj (hp.symm.trans h.prompt)
    exact (hread.promptKey hfiles hn k.key).yields.bind_some
  · next hp => cases hp.symm.trans h.prompt

/-- Every event is acted on. -/
theorem Sound.step (h : v.Sound files n) (hn : n < 2 ^ 60) {e : Event} (he : Possible e) :
    Yields (v.step e) E fun r ↦ ∀ v' ∈ r, v'.Sound files (n + 1) := by
  cases e with
  | resize size =>
    have hsame := h.screen_lt
    have hmore := h.mono (Nat.le_succ n)
    cases size with
    | none => exact (hmore.refit hfiles hsame.1 hsame.2).yields.bind_some
    | some size => exact (hmore.refit hfiles he.1 he.2).yields.bind_some
  | key k =>
    rcases h with h | ⟨p, h⟩
    · exact (h.key hfiles k).imp fun r hr v' hv' ↦ (hr v' hv').mono (Nat.zero_le _)
    · exact h.key hfiles hn k

/-- Whatever mode the viewer is in, everything is drawn. -/
theorem Sound.draw (h : v.Sound files n) (hn : n ≤ 2 ^ 60) :
    Yields v.draw E (·.Drawn files n) := by
  rcases h with h | ⟨p, h⟩
  · exact (h.draw hfiles).imp fun _ ↦ .inl
  · exact (h.draw hfiles hn).imp fun _ ↦ .inr

end

end Viewer

end CodeViewer
