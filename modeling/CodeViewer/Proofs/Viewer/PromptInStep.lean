import CodeViewer.Proofs.Viewer.GoingToLine

/-!
# The prompt's text and cursor stay in step

The prompt puts its text on the screen before it is scrolled to its cursor. The text that is seen
and the cursor belong together if there was nothing to scroll, which is so after every key. It may
be otherwise only after a change of the size of the screen.
-/

namespace CodeViewer

open Text (IsDigit)

namespace CodeView

private theorem draw_filled (cv : CodeView) {s : Screen} (hs : s.Filled) :
    Yields (cv.draw s) (fun _ ↦ True) (·.2.Filled) := by
  refine (Yields.anything _).bind fun cv' _ ↦ (Yields.anything _).bind fun ps _ ↦ ?_
  have hcursor : Yields (cv'.showCursor (s.putAll ps)) (fun _ ↦ True) Screen.Filled := by
    unfold showCursor
    split
    · exact (Yields.anything _).bind fun _ _ ↦ hs.putAll ps
    · exact hs.putAll ps
  exact hcursor.bind fun _ hs' ↦ .of_ok hs'

end CodeView

namespace Viewer

variable {v u w : Viewer} {e : Event} {p q : LinePrompt}

/-! ### What becomes of the prompt -/

/-- How a prompt that is open after an event came about: it was fitted into the last row of another
screen, it got a key that does not close it, or it was opened. -/
inductive Prompted (v : Viewer) : Event → LinePrompt → Prop
  | refitted {size : Option (Nat × Nat)} {p : LinePrompt} (b : Bounds) (hp : v.prompt = some p) :
    Prompted v (.resize size) ⟨{ p.field with bounds := b }⟩
  | typed {k : KeyPress} {p : LinePrompt} (hp : v.prompt = some p)
    (hopen : k.key ≠ .enter ∧ k.key ≠ .escape) :
    Prompted v (.key k) (p.handleKey k.key v.screen).2.1
  | opened {k : KeyPress} (b : Bounds) (s : Screen) (hnone : v.prompt = none) :
    Prompted v (.key k) ⟨({ (LinePrompt.new none).field with bounds := b }.setFocused true s).1⟩

private theorem focusView_prompt (v : Viewer) :
    Yields v.focusView (fun _ ↦ True) (·.prompt = v.prompt) :=
  (Yields.anything _).bind fun _ _ ↦ .of_ok rfl

private theorem dropFocus_prompt (h : v.prompt = none) :
    Yields v.dropFocus (fun _ ↦ True) (·.prompt = none) := by
  unfold dropFocus
  rw [h]
  cases v.focus with
  | view => exact (Yields.anything _).bind fun _ _ ↦ .of_ok rfl
  | prompt => exact .of_ok h

private theorem closePrompt_prompt (v : Viewer) :
    Yields v.closePrompt (fun _ ↦ True) (·.prompt = none) :=
  (Yields.anything _).bind fun _ _ ↦ focusView_prompt _

private theorem display_prompt (v : Viewer) (f : SourceFile) :
    Yields (v.display f) (fun _ ↦ True) (·.prompt = v.prompt) :=
  (focusView_prompt _).bind fun _ h ↦ (Yields.anything _).bind fun _ _ ↦ .of_ok h

private theorem switchTo_prompt (h : v.prompt = none) (i : Nat) :
    Yields (v.switchTo i) (fun _ ↦ True) (·.prompt = none) := by
  unfold switchTo
  split
  · trivial
  · exact (dropFocus_prompt h).bind fun v' h' ↦ (display_prompt _ _).imp fun _ h'' ↦ h''.trans h'

private theorem new_prompt (files : List SourceFile) (maxDepth : Int) (screen : Screen)
    (clipboard : Clipboard) (counters : Counters) (log : Log) :
    Yields (new files maxDepth screen clipboard counters log) (fun _ ↦ True)
      (·.prompt = none) := by
  unfold new
  split
  · trivial
  · exact display_prompt _ _

private theorem focusedKey_prompt (h : v.prompt = none) (k : KeyPress) :
    Yields (v.focusedKey k) (fun _ ↦ True) (·.prompt = none) := by
  unfold focusedKey
  rw [h]
  cases v.focus with
  | view => exact (Yields.anything _).bind fun _ _ ↦ .of_ok h
  | prompt => exact .of_ok h

/-- Ctrl+G opens the prompt, and no other key does. -/
theorem viewKey_prompted (h : v.prompt = none) (k : KeyPress) :
    Yields (v.viewKey k) (fun _ ↦ True) fun r ↦
      ∀ u ∈ r, ∀ q, u.prompt = some q → v.Prompted (.key k) q := by
  have hnone {x : Except Fault Viewer} (hx : Yields x (fun _ ↦ True) (·.prompt = none)) :
      Yields (x >>= fun u ↦ pure (some u)) (fun _ ↦ True) fun r ↦
        ∀ u ∈ r, ∀ q, u.prompt = some q → v.Prompted (.key k) q :=
    (hx.imp fun u hu q hq ↦ by cases hu.symm.trans hq).bind_some
  have hcopied {x : Except Fault CopyResult} :
      Yields (x >>= fun r ↦ pure (some (v.afterCopy r))) (fun _ ↦ True) fun r ↦
        ∀ u ∈ r, ∀ q, u.prompt = some q → v.Prompted (.key k) q := by
    refine (Yields.anything x).bind fun r _ u hu q hq ↦ ?_
    rw [← Option.some.inj hu] at hq
    cases h.symm.trans hq
  unfold viewKey
  simp only
  split
  · exact fun u hu ↦ nomatch hu
  · exact fun u hu ↦ nomatch hu
  · exact hnone (switchTo_prompt h _)
  · exact hnone (switchTo_prompt h _)
  · exact hcopied
  · exact hcopied
  · refine Yields.bind_some ((Yields.anything _).bind fun v' _ ↦ .of_ok fun q hq ↦ ?_)
    rw [← Option.some.inj hq]
    exact .opened _ v'.screen h
  · exact hnone (focusedKey_prompt h k)

/-- A prompt that gets a key stays open unless the key brings an answer. -/
theorem promptKey_prompted (hp : v.prompt = some p) (k : KeyPress) :
    Yields (v.promptKey p k.key) (fun _ ↦ True) fun u ↦
      ∀ q, u.prompt = some q → v.Prompted (.key k) q := by
  have hclosed (u : Viewer) (hu : u.prompt = none) :
      ∀ q, u.prompt = some q → v.Prompted (.key k) q := fun q hq ↦ by cases hu.symm.trans hq
  have hanswer := p.answer_isSome_iff k.key v.screen
  have htyped := Prompted.typed (k := k) hp
  unfold promptKey
  generalize p.handleKey k.key v.screen = r at hanswer htyped
  obtain ⟨handled, p', s, answer?⟩ := r
  cases answer? with
  | none =>
    have hopen : k.key ≠ .enter ∧ k.key ≠ .escape :=
      not_or.mp fun hk ↦ Bool.false_ne_true (hanswer.mpr hk)
    exact .of_ok fun q hq ↦ Option.some.inj hq ▸ htyped hopen
  | some answer =>
    cases answer with
    | cancelled => exact (closePrompt_prompt _).imp hclosed
    | chosen line => exact (Yields.anything _).bind fun _ _ ↦ (closePrompt_prompt _).imp hclosed

/-- What every event does to the prompt. -/
theorem step_prompted (hstep : v.step e = .ok (some u)) (hq : u.prompt = some q) :
    v.Prompted e q := by
  have hprompted : Yields (v.step e) (fun _ ↦ True) fun r ↦
      ∀ u ∈ r, ∀ q, u.prompt = some q → v.Prompted e q := by
    cases e with
    | resize size =>
      refine Yields.bind_some ((Yields.anything _).bind fun cv _ ↦ .of_ok fun q hq ↦ ?_)
      obtain ⟨p, hp, rfl⟩ := Option.map_eq_some_iff.mp hq
      exact .refitted _ hp
    | key k =>
      -- The message is gone before the key is acted on; the prompt does not see it.
      have hread {q : LinePrompt} (h : ({ v with message := "" } : Viewer).Prompted (.key k) q) :
          v.Prompted (.key k) q := by
        cases h with
        | typed hp hopen => exact .typed hp hopen
        | opened b s hnone => exact .opened b s hnone
      unfold step
      simp only
      split
      · next p hp =>
        refine (promptKey_prompted (v := { v with message := "" }) hp k).bind
          fun u hu u' hu' q hq ↦ ?_
        obtain rfl := Option.some.inj hu'
        exact hread (hu q hq)
      · next hnone =>
        exact (viewKey_prompted (v := { v with message := "" }) hnone k).imp
          fun r hr u hu q hq ↦ hread (hr u hu q hq)
  exact hprompted.ok hstep u rfl q hq

/-! ### Drawing the prompt -/

/-- A prompt is put on a screen as it is, and then scrolled to its cursor, which is shown. -/
def Paints (q p : LinePrompt) (screen : Screen) : Prop :=
  ∃ (s : Screen) (ps : List Put), s.Filled ∧ q.field.puts = .ok ps ∧
    (p.field, screen) = q.field.setCursor q.field.cursor (s.putAll ps)

/-- What is drawn in the last row is the prompt, if it is open. -/
theorem drawLastRow_paints (hlast : u.drawLastRow = .ok w) (hfilled : u.screen.Filled)
    (hp : w.prompt = some p) : ∃ q, u.prompt = some q ∧ Paints q p w.screen := by
  unfold drawLastRow at hlast
  cases hq : u.prompt with
  | none =>
    rw [hq] at hlast
    obtain ⟨_, -, hw⟩ := bind_eq_ok.mp hlast
    rw [← Except.ok.inj hw] at hp
    cases hp
  | some q =>
    rw [hq] at hlast
    obtain ⟨drawn, hfield, hw⟩ := bind_eq_ok.mp hlast
    obtain ⟨ps, hps, hfield⟩ := bind_eq_ok.mp hfield
    obtain rfl := Except.ok.inj hw
    obtain rfl := Option.some.inj hp
    exact ⟨q, rfl, u.screen, ps, hfilled, hps, (Except.ok.inj hfield).symm⟩

/-- Drawing paints the prompt. -/
theorem draw_paints (hdraw : u.draw = .ok w) (hp : w.prompt = some p) :
    ∃ q, u.prompt = some q ∧ Paints q p w.screen := by
  obtain ⟨v, hbar, hdraw⟩ := bind_eq_ok.mp hdraw
  obtain ⟨r, hview, hlast⟩ := bind_eq_ok.mp hdraw
  obtain ⟨_, -, hbar⟩ := bind_eq_ok.mp hbar
  have hprompt : v.prompt = u.prompt := by
    rw [← Except.ok.inj hbar]
    rfl
  obtain ⟨q, hq, hpaints⟩ :=
    drawLastRow_paints hlast ((v.view.draw_filled v.screen.filled_clear).ok hview) hp
  exact ⟨q, hprompt.symm.trans hq, hpaints⟩

namespace Paints

variable {screen : Screen} {n : Nat}

private theorem field_eq (h : Paints q p screen) :
    ∃ s, p.field = (q.field.setCursor q.field.cursor s).1 := by
  obtain ⟨s, ps, -, -, hpainted⟩ := h
  exact ⟨s.putAll ps, (Prod.mk.inj hpainted).1⟩

private theorem textWidth_eq (h : Paints q p screen) : q.field.textWidth = p.field.textWidth := by
  obtain ⟨s, hfield⟩ := h.field_eq
  rw [hfield]
  rfl

private theorem ofPrompt (h : Paints q p screen) (hq : LinePrompt.OfPrompt q.field) :
    LinePrompt.OfPrompt p.field := by
  obtain ⟨s, hfield⟩ := h.field_eq
  rw [hfield]
  exact ⟨hq.label, hq.digits⟩

/-- The cursor of a prompt that was drawn is in the window. -/
theorem inWindow (h : Paints q p screen) (hq : q.field.Windowed n)
    (hlength : q.field.text.length ≤ n) : p.field.InWindow := by
  obtain ⟨s, hfield⟩ := h.field_eq
  rw [hfield]
  exact (hq.retype hlength hlength _ s).2

private theorem unscrolled (h : Paints q p screen) (hq : q.field.Windowed n)
    (hlength : q.field.text.length ≤ n) (hin : q.field.InWindow) : p.field = q.field := by
  obtain ⟨s, hfield⟩ := h.field_eq
  exact hfield.trans (hq.setCursor_self hlength hin s)

private theorem screen_eq (h : Paints q p screen) : ∃ (s : Screen) (ps : List Put), s.Filled ∧
    q.field.puts = .ok ps ∧ screen = p.field.showCursor (s.putAll ps) := by
  obtain ⟨s, ps, hs, hps, hpainted⟩ := h
  obtain ⟨hfield, hscreen⟩ := Prod.mk.inj hpainted
  exact ⟨s, ps, hs, hps, by rw [hscreen, ← hfield]⟩

end Paints

/-! ### The window on the digits -/

/-- The row of the prompt shows the window on the digits from the scroll position on, and left of
the terminal's cursor the digit in front of the cursor, if it is in the window. -/
structure InStep (w : Viewer) (p : LinePrompt) : Prop where
  window : ∀ {x y : Nat}, p.field.promptWidth ≤ x → x < w.screen.width → y + 1 = w.screen.height →
    (w.screen.cellAt x y).char =
      (p.field.text[p.field.scroll.toNat + (x - p.field.promptWidth)]?).getD ' '
  digit : ∀ {y : Nat}, p.field.scroll < p.field.cursor → y + 1 = w.screen.height →
    ∃ c, p.field.text[p.field.cursor - 1]? = some c ∧
      (w.screen.cellAt (w.screen.cursorX.toNat - 1) y).char = c

section

variable {files : List SourceFile} {n : Nat}

private theorem Asking.bounds_eq (h : w.Asking files p n) :
    p.field.bounds = ⟨0, (w.screen.height : Int) - 1, w.screen.width, 1⟩ := by
  rw [h.bounds, h.width, h.height]
  rfl

variable (h : w.Asking files p n) (hroom : p.field.promptWidth < w.screen.width)
  (hin : p.field.InWindow) (hpaints : Paints q p w.screen)

include h hroom hin hpaints

private theorem Asking.cursor_shown :
    w.screen.cursorX = p.field.promptWidth + (p.field.cursor - p.field.scroll) ∧
      w.screen.cursorX < w.screen.width ∧ w.screen.cursorY = (w.screen.height : Int) - 1 := by
  obtain ⟨htextX, htextWidth⟩ := LinePrompt.room_of_row h.bounds_eq h.screen_lt.1 hroom
  obtain ⟨s, ps, -, -, hscreen⟩ := hpaints.screen_eq
  have hwide := h.screen_lt.1
  have hscroll := h.inOrder.scroll_le
  unfold InputField.InWindow at hin
  rw [InputField.showCursor, if_pos h.focused] at hscreen
  have hx : w.screen.cursorX = wrap (p.field.textX + p.field.cursor - p.field.scroll) := by
    rw [hscreen]
    rfl
  have hy : w.screen.cursorY = p.field.bounds.y := by
    rw [hscreen]
    rfl
  rw [htextX, wrap_eq (by omega) (by omega)] at hx
  rw [h.bounds_eq] at hy
  exact ⟨by omega, by omega, hy⟩

/-- A prompt that was put on the screen as it is scrolled is in step with the cursor. -/
theorem Asking.inStep (hof : LinePrompt.OfPrompt p.field) (hsame : p.field = q.field) :
    w.InStep p := by
  obtain ⟨hx, hlt, -⟩ := h.cursor_shown hroom hin hpaints
  have hwindow {x y : Nat} (hx : p.field.promptWidth ≤ x) (hx' : x < w.screen.width)
      (hy : y + 1 = w.screen.height) : (w.screen.cellAt x y).char =
        (p.field.text[p.field.scroll.toNat + (x - p.field.promptWidth)]?).getD ' ' := by
    obtain ⟨s, ps, hs, hps, hscreen⟩ := hpaints.screen_eq
    rw [InputField.showCursor, if_pos h.focused] at hscreen
    obtain ⟨⟨hwidth, hheight⟩, -, -⟩ := s.putAll_keeps ps
    have hwidth : w.screen.width = s.width := by
      rw [hscreen]
      exact hwidth
    have hheight : w.screen.height = s.height := by
      rw [hscreen]
      exact hheight
    have hcell : w.screen.cellAt x y = (s.putAll ps).cellAt x y := by
      rw [hscreen]
      rfl
    have hbounds := h.bounds_eq
    obtain ⟨hwide, hhigh⟩ := h.screen_lt
    rw [hwidth, hheight] at hbounds
    rw [hcell]
    exact hof.row_shows hs hbounds (hwidth ▸ hwide) (hheight ▸ hhigh) hx (hwidth ▸ hx')
      (hheight ▸ hy) (hsame ▸ hps)
  have hnonneg := h.inOrder.scroll_nonneg
  have hplace := h.inOrder.cursor_le
  refine ⟨hwindow, fun hbehind hy ↦ ?_⟩
  have hthere : p.field.cursor - 1 < p.field.text.length := by omega
  have hindex : p.field.scroll.toNat + (w.screen.cursorX.toNat - 1 - p.field.promptWidth) =
      p.field.cursor - 1 := by omega
  refine ⟨_, List.getElem?_eq_getElem hthere, ?_⟩
  rw [hwindow (by omega) (by omega) hy, hindex, List.getElem?_eq_getElem hthere]
  rfl

end

namespace Prompted

/-- Whatever becomes of a prompt, it has its label, and digits as its text. -/
theorem ofPrompt (h : v.Prompted e q) (hv : ∀ p, v.prompt = some p → LinePrompt.OfPrompt p.field) :
    LinePrompt.OfPrompt q.field := by
  cases h with
  | refitted b hp => exact ⟨(hv _ hp).label, (hv _ hp).digits⟩
  | typed hp hopen => exact (hv _ hp).handleKey hopen v.screen
  | opened b s hnone => exact LinePrompt.ofPrompt_new b s

variable {n : Nat}

/-- Whatever becomes of a prompt, its window does not start behind the cursor. The cursor is in the
window if it was, unless the prompt was made narrower. -/
theorem windowed (h : v.Prompted e q) (hroom : q.field.textWidth + n < 2 ^ 63)
    (hv : ∀ p, v.prompt = some p →
      p.field.Windowed n ∧ p.field.text.length + 1 ≤ n ∧ p.field.InWindow) :
    q.field.Windowed n ∧ q.field.text.length ≤ n ∧
      ((∀ size, e = .resize size → ∀ p, v.prompt = some p →
        p.field.cursor < p.field.scroll + q.field.textWidth) → q.field.InWindow) := by
  cases h with
  | @refitted size p b hp =>
    obtain ⟨hwindowed, hlength, -⟩ := hv p hp
    exact ⟨⟨hroom, hwindowed.scroll_nonneg, hwindowed.scroll_le, hwindowed.cursor_le⟩,
      Nat.le_of_succ_le hlength, fun hfits ↦ hfits size rfl p hp⟩
  | @typed k p hp hopen =>
    obtain ⟨hwindowed, hlength, hin⟩ := hv p hp
    rw [LinePrompt.handleKey_of_open hopen]
    split
    · have hkey := hwindowed.handleKey hlength k.key v.screen
      exact ⟨hkey.1, hkey.2.1.trans hlength,
        fun _ ↦ hwindowed.handleKey_inWindow hlength hin k.key v.screen⟩
    · exact ⟨hwindowed, Nat.le_of_succ_le hlength, fun _ ↦ hin⟩
  | opened b s hnone =>
    have hnew : { (LinePrompt.new none).field with bounds := b, focused := true }.Windowed n :=
      ⟨hroom, Int.le_refl 0, Int.le_refl 0, Nat.le_refl 0⟩
    have hempty : ([] : List Char).length ≤ n := Nat.zero_le n
    obtain ⟨hwindowed, hin⟩ := hnew.retype hempty hempty 0 s
    exact ⟨hwindowed, Nat.zero_le n, fun _ ↦ hin⟩

end Prompted

end Viewer

namespace Session

open Viewer (Possible threeLinesStates threeLines_size)

/-! ### Frames with a prompt -/

section

variable {files : List SourceFile} {screen : Screen} {maxDepth : Int} {clipboard : Clipboard}
  {events : List Event} {i : Nat} {w : Viewer} {p : LinePrompt}

/-- Where a prompt is open in a frame, there is a frame in front of it. In between the prompt came
about, and was painted. -/
theorem exists_prompted {j : Nat}
    (hw : (states screen files maxDepth clipboard events)[j]? = some w) (hp : w.prompt = some p) :
    ∃ i before e q, j = i + 1 ∧
      (states screen files maxDepth clipboard events)[i]? = some before ∧
      (events ++ farewell)[i]? = some e ∧ before.Prompted e q ∧ Viewer.Paints q p w.screen := by
  cases j with
  | zero =>
    obtain ⟨v, hopened, hdraw⟩ := exists_draw_of_states_zero hw
    obtain ⟨q, hq, -⟩ := Viewer.draw_paints hdraw hp
    cases ((Viewer.new_prompt _ _ _ _ _ _).ok hopened).symm.trans hq
  | succ i =>
    obtain ⟨before, e, u, hbefore, he, hstep, hdraw⟩ := step_of_states_succ hw
    obtain ⟨q, hq, hpaints⟩ := Viewer.draw_paints hdraw hp
    exact ⟨i, before, e, q, rfl, hbefore, he, Viewer.step_prompted hstep hq, hpaints⟩

/-- The viewer asks for a line in every frame with a prompt. -/
theorem asking_of_states (hne : files ≠ []) (hsize : ∀ f ∈ files, f.contents.size < 2 ^ 60)
    (hwidth : screen.width < 2 ^ 60) (hheight : screen.height < 2 ^ 60)
    (hpossible : ∀ e ∈ events, Possible e) (hlength : events.length + 2 ≤ 2 ^ 60) {j : Nat}
    (hw : (states screen files maxDepth clipboard events)[j]? = some w) (hp : w.prompt = some p) :
    w.Asking files p (2 ^ 60) := by
  have hfiles : ∀ f ∈ files, f.Searchable fun _ ↦ True :=
    fun f hf ↦ ⟨hsize f hf, fun _ ↦ trivial⟩
  rcases drawn_of_mem_states hfiles hne hwidth hheight hpossible hlength
    (List.mem_of_getElem? hw) with ⟨h, -⟩ | ⟨p', h⟩
  · cases hp.symm.trans h.prompt
  · rw [Option.some.inj (hp.symm.trans h.prompt)]
    exact h.mono hlength

section

variable (hasking : ∀ {j : Nat} {w : Viewer} {p : LinePrompt},
  (states screen files maxDepth clipboard events)[j]? = some w → w.prompt = some p →
    w.Asking files p (2 ^ 60))

include hasking

private theorem windowed_of_prompted {before : Viewer} {e : Event} {q : LinePrompt}
    (hbefore : (states screen files maxDepth clipboard events)[i]? = some before)
    (hknown : ∀ p, before.prompt = some p → LinePrompt.OfPrompt p.field ∧ p.field.InWindow)
    (hq : before.Prompted e q) (h : w.Asking files p (2 ^ 60))
    (hpaints : Viewer.Paints q p w.screen) :
    LinePrompt.OfPrompt q.field ∧ q.field.Windowed (2 ^ 61) ∧ q.field.text.length ≤ 2 ^ 61 ∧
      ((∀ size, e = .resize size → ∀ p, before.prompt = some p →
        p.field.cursor < p.field.scroll + q.field.textWidth) → q.field.InWindow) := by
  have hle := h.inOrder.textWidth_le
  have hroom : q.field.textWidth + (2 ^ 61 : Nat) < 2 ^ 63 := by
    rw [hpaints.textWidth_eq]
    omega
  refine ⟨hq.ofPrompt fun p hp ↦ (hknown p hp).1, hq.windowed hroom fun p hp ↦ ?_⟩
  have hinOrder := (hasking hbefore hp).inOrder
  have hlength := hinOrder.length_le
  exact ⟨hinOrder.windowed, by omega, (hknown p hp).2⟩

/-- In every frame the text of a prompt consists of digits, and the cursor is in the window. -/
theorem inWindow_of_states {j : Nat}
    (hw : (states screen files maxDepth clipboard events)[j]? = some w) (hp : w.prompt = some p) :
    LinePrompt.OfPrompt p.field ∧ p.field.InWindow := by
  induction j generalizing w p with
  | zero =>
    obtain ⟨i, -, -, -, hi, -⟩ := exists_prompted hw hp
    cases hi
  | succ j ih =>
    obtain ⟨i, before, e, q, hi, hbefore, -, hq, hpaints⟩ := exists_prompted hw hp
    obtain rfl := Nat.succ.inj hi
    obtain ⟨hof, hwindowed, hlength, -⟩ := windowed_of_prompted hasking hbefore
      (fun p hp ↦ ih hbefore hp) hq (hasking hw hp) hpaints
    exact ⟨hpaints.ofPrompt hof, hpaints.inWindow hwindowed hlength⟩

end

/-- The text of the prompt and the terminal's cursor are in step. In every frame of a session in
which the prompt is open, on a screen with room for more than its label, its text consists of digits
and the cursor is inside of its row, as far behind the label as it is in the window on the digits.
The row shows the digits of this same window, so that the digit in front of the cursor is left of
it, unless the event before was a change of the size of the screen that left the cursor outside of
the window: then the digits are shown as they were scrolled before. -/
theorem prompt_in_step (hne : files ≠ []) (hsize : ∀ f ∈ files, f.contents.size < 2 ^ 60)
    (hwidth : screen.width < 2 ^ 60) (hheight : screen.height < 2 ^ 60)
    (hpossible : ∀ e ∈ events, Possible e) (hlength : events.length + 2 ≤ 2 ^ 60) {j : Nat}
    (hw : (states screen files maxDepth clipboard events)[j]? = some w) (hp : w.prompt = some p)
    (hroom : p.field.promptWidth < w.screen.width) :
    LinePrompt.OfPrompt p.field ∧
    (p.field.promptWidth ≤ w.screen.cursorX ∧ w.screen.cursorX < w.screen.width ∧
      w.screen.cursorY = (w.screen.height : Int) - 1) ∧
    w.screen.cursorX = p.field.promptWidth + (p.field.cursor - p.field.scroll) ∧
    ∃ i before e, j = i + 1 ∧ (states screen files maxDepth clipboard events)[i]? = some before ∧
      (events ++ farewell)[i]? = some e ∧
      ((∀ size, e = .resize size → ∀ q, before.prompt = some q →
          q.field.cursor < q.field.scroll + (w.screen.width - p.field.promptWidth)) →
        w.InStep p) := by
  have hasking {j : Nat} {w : Viewer} {p : LinePrompt} :=
    @asking_of_states files screen maxDepth clipboard events w p hne hsize hwidth hheight hpossible
      hlength j
  obtain ⟨i, before, e, q, hi, hbefore, he, hq, hpaints⟩ := exists_prompted hw hp
  have h := hasking hw hp
  obtain ⟨hof, hin⟩ := inWindow_of_states hasking hw hp
  obtain ⟨-, hwindowed, hle, hinWindow⟩ := windowed_of_prompted hasking hbefore
    (fun p hp ↦ inWindow_of_states hasking hbefore hp) hq h hpaints
  rw [hpaints.textWidth_eq, (LinePrompt.room_of_row h.bounds_eq h.screen_lt.1 hroom).2] at hinWindow
  obtain ⟨hx, hlt, hy⟩ := h.cursor_shown hroom hin hpaints
  have hscroll := h.inOrder.scroll_le
  refine ⟨hof, ⟨by omega, hlt, hy⟩, hx, i, before, e, hi, hbefore, he, fun hfits ↦ ?_⟩
  exact h.inStep hroom hin hpaints hof (hpaints.unscrolled hwindowed hle (hinWindow hfits))

end

/-- Three digits are typed on a screen with room for two. -/
def threeDigits : List Event :=
  [.ofKey (.control 'g'), .ofKey (.char '7'), .ofKey (.char '8'), .ofKey (.char '9')]

/-- The digits are scrolled, and the last one is shown left of the terminal's cursor. -/
theorem prompt_in_step_scrolled :
    ∃ w p, (threeLinesStates 14 2 threeDigits)[4]? = some w ∧ w.prompt = some p ∧
      0 < p.field.scroll ∧ (w.screen.cellAt (w.screen.cursorX.toNat - 1) 1).char = '9' := by
  have htest : (threeLinesStates 14 2 threeDigits)[4]?.any (fun w ↦
      decide (w.screen.height = 2) && w.prompt.any fun p ↦ decide (0 < p.field.scroll) &&
        decide (p.field.scroll < p.field.cursor) && decide (p.field.promptWidth < w.screen.width) &&
          decide (p.field.text[p.field.cursor - 1]? = some '9')) = true := by
    decide +kernel
  obtain ⟨w, hw, htest⟩ := (Option.any_eq_true _ _).mp htest
  simp only [Bool.and_eq_true, decide_eq_true_eq, Option.any_eq_true] at htest
  obtain ⟨hheight, p, hp, ⟨⟨hscrolled, hbehind⟩, hroom⟩, hdigit⟩ := htest
  have hpossible : ∀ e ∈ threeDigits, Possible e := by simp [threeDigits, Possible, Event.ofKey]
  obtain ⟨-, -, -, i, before, e, hi, -, he, hinStep⟩ := prompt_in_step (List.cons_ne_nil _ _)
    threeLines_size (show (Screen.empty 14 2).width < 2 ^ 60 by decide)
    (show (Screen.empty 14 2).height < 2 ^ 60 by decide) hpossible (by decide) hw hp hroom
  obtain rfl : i = 3 := by omega
  have hkey : e = .ofKey (.char '9') := (Option.some.inj he).symm
  have hstep := hinStep fun size hsize ↦ by cases hkey.symm.trans hsize
  obtain ⟨c, hc, hcell⟩ := hstep.digit (y := 1) hbehind (by omega)
  refine ⟨w, p, hw, hp, hscrolled, hcell.trans ?_⟩
  exact Option.some.inj (hc.symm.trans hdigit)

/-- Five digits are typed, and the screen becomes too narrow for them. -/
def narrowing : List Event :=
  .ofKey (.control 'g') :: "12345".toList.map (fun c ↦ .ofKey (.char c)) ++ [.resize (some (14, 4))]

/-- Left of the terminal's cursor there is another digit than the one in front of the cursor: the
digits are shown as they were before the screen was made narrow, and the cursor where it is after
they are scrolled. -/
theorem prompt_out_of_step :
    ∃ w p, (threeLinesStates 20 4 narrowing)[7]? = some w ∧ w.prompt = some p ∧
      p.field.promptWidth < w.screen.width ∧ p.field.scroll < p.field.cursor ∧
      p.field.text[p.field.cursor - 1]? = some '5' ∧ w.screen.cursorX = 13 ∧ w.screen.cursorY = 3 ∧
      (w.screen.cellAt 12 3).char = '1' := by
  have htest : (threeLinesStates 20 4 narrowing)[7]?.any (fun w ↦
      decide (w.screen.cursorX = 13) && decide (w.screen.cursorY = 3) &&
        decide ((w.screen.cellAt 12 3).char = '1') && w.prompt.any fun p ↦
          decide (p.field.promptWidth < w.screen.width) &&
            decide (p.field.scroll < p.field.cursor) &&
              decide (p.field.text[p.field.cursor - 1]? = some '5')) = true := by
    decide +kernel
  obtain ⟨w, hw, htest⟩ := (Option.any_eq_true _ _).mp htest
  simp only [Bool.and_eq_true, decide_eq_true_eq, Option.any_eq_true] at htest
  obtain ⟨⟨⟨hx, hy⟩, hcell⟩, p, hp, ⟨hroom, hbehind⟩, hdigit⟩ := htest
  exact ⟨w, p, hw, hp, hroom, hbehind, hdigit, hx, hy, hcell⟩

end Session

end CodeViewer
