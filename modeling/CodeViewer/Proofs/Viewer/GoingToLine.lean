import CodeViewer.Proofs.Viewer.Session
import CodeViewer.Proofs.Widget.LinePrompt

/-!
# Going to a line

While the prompt for a line is open, the view and its cursor stay as they are, and what is typed
goes into the prompt. The answer closes the prompt, and the cursor is moved only if the answer
chooses a line.
-/

namespace CodeViewer

open Buffer (ofBytes)
open Text (IsDigit decimalValue)

variable {contents : ByteArray} {c : Cursor} {keys : List Key}

namespace CodeView

/-- A view has its cursor at a place on one of the lines of a text. -/
structure StandsAt (cv : CodeView) (contents : ByteArray) (c : Cursor) : Prop
    extends StandsIn cv contents where
  cursor : cv.cursor = c

variable {cv : CodeView}

private theorem StandsAt.highlight (h : cv.StandsAt contents c) :
    Yields cv.highlight (fun _ ↦ True) (·.StandsAt contents c) := by
  cases hcv' : cv.highlight with
  | error fault => trivial
  | ok cv' =>
    obtain rfl := highlight_eq_ok hcv'
    exact ⟨⟨h.buffer, h.line_lt⟩, h.cursor⟩

private theorem StandsAt.status (h : cv.StandsAt contents c) :
    Yields cv.status (fun _ ↦ True) (·.1.StandsAt contents c) := by
  refine (tokenAtCursor_yields (fun _ ↦ StandsAt.toStandsIn) h.highlight).bind
    fun (cv', token?) h' ↦ ?_
  cases token? with
  | none => exact .of_ok h'
  | some t => exact .of_ok h'

/-- Drawing does not move the cursor. -/
theorem StandsAt.draw (h : cv.StandsAt contents c) (s : Screen) :
    Yields (cv.draw s) (fun _ ↦ True) (·.1.StandsAt contents c) := by
  refine h.highlight.bind fun cv' h' ↦ (Yields.anything cv'.puts).bind fun ps _ ↦ ?_
  exact (Yields.anything (cv'.showCursor (s.putAll ps))).bind fun _ _ ↦ .of_ok h'

private theorem StandsAt.scrollToCursor (h : cv.StandsAt contents c) (b : Bounds) :
    Yields { cv with bounds := b }.scrollToCursor (fun _ ↦ True) (·.StandsAt contents c) :=
  (Yields.anything _).bind fun _ _ ↦ ⟨⟨h.buffer, h.line_lt⟩, h.cursor⟩

private theorem StandsAt.setFocused (h : cv.StandsAt contents c) (b : Bool) (s : Screen) :
    Succeeds (cv.setFocused b s) (·.1.StandsAt contents c) := by
  have h' : { cv with focused := b }.StandsAt contents c := ⟨⟨h.buffer, h.line_lt⟩, h.cursor⟩
  unfold CodeView.setFocused
  simp only
  split
  · exact (h'.showCursor s).bind fun _ _ ↦ .of_ok h'
  · exact .of_ok h'

/-- Going to a line, counted from one, moves the cursor to its start, or to that of the last line if
there is no such line. -/
theorem StandsAt.gotoLine (h : cv.StandsAt contents c) {n : Nat} (hpos : 1 ≤ n) (hlt : n < 2 ^ 63)
    (s : Screen) :
    Succeeds (cv.gotoLine n s) (·.1.StandsAt contents
      { c with line := min n (ofBytes contents).lines - 1, col := 0 }) := by
  have hlines := (ofBytes contents).lines_pos
  have hline : min ((n : Int) - 1).toNat ((ofBytes contents).lines - 1) =
      min n (ofBytes contents).lines - 1 := by omega
  have hthere : min n (ofBytes contents).lines - 1 < (ofBytes contents).lines := by omega
  obtain ⟨chars, hchars⟩ := Buffer.charsInLine_succeeds (Int.ofNat_lt.mpr hthere)
  have hplace : cv.cursor.setLineCol cv.buffer (wrap ((n : Int) - 1)) 0 =
      .ok { c with line := min n (ofBytes contents).lines - 1, col := 0 } := by
    rw [wrap_eq (by omega) (by omega), h.cursor, h.buffer, Cursor.setLineCol, Buffer.clamp,
      if_neg (by decide), hline, hchars]
    change Except.ok { c with line := _, col := min 0 chars } = _
    rw [Nat.zero_min]
  rw [CodeView.gotoLine, hplace]
  refine (setCursor_succeeds h.buffer hthere s).imp fun r hr ↦ ?_
  rw [hr]
  exact ⟨⟨h.buffer, hthere⟩, rfl⟩

end CodeView

namespace Viewer

variable {v w : Viewer}

/-! ### While the prompt is open -/

/-- A viewer asks for a line while the view has its cursor at a place. The prompt has the focus and
holds what some keys have typed. -/
structure AsksAt (v : Viewer) (contents : ByteArray) (c : Cursor) (keys : List Key) : Prop where
  stands : v.view.StandsAt contents c
  focus : v.focus = .prompt
  prompt : ∃ p, v.prompt = some p ∧ p.Holds (LinePrompt.typed keys)

private theorem focusPrompt_asksAt (h : v.view.StandsAt contents c) {p : LinePrompt}
    (hholds : p.Holds (LinePrompt.typed keys)) : (v.focusPrompt p).AsksAt contents c keys :=
  ⟨h, rfl, _, rfl, hholds.retain (hholds.edits.setFocused true v.screen)⟩

private theorem openPrompt_asksAt (h : v.view.StandsAt contents c) (hfocus : v.focus = .view) :
    Succeeds v.openPrompt (·.AsksAt contents c []) := by
  have hdropped : Succeeds v.dropFocus (·.view.StandsAt contents c) := by
    unfold dropFocus
    rw [hfocus]
    exact (h.setFocused false v.screen).bind fun r hr ↦ .of_ok hr
  exact hdropped.bind fun v' h' ↦
    .of_ok (focusPrompt_asksAt h' (LinePrompt.holds_new none (lastRow v.width v.height)))

private theorem AsksAt.drawLastRow (h : v.AsksAt contents c keys) :
    Yields v.drawLastRow (fun _ ↦ True) (·.AsksAt contents c keys) := by
  obtain ⟨hstands, hfocus, p, hp, hholds⟩ := h
  unfold Viewer.drawLastRow
  rw [hp]
  exact (hholds.edits.draw v.screen).bind fun r hr ↦
    .of_ok ⟨hstands, hfocus, _, rfl, hholds.retain hr⟩

/-- The prompt is drawn, and what is typed into it stays. -/
theorem AsksAt.draw (h : v.AsksAt contents c keys) :
    Yields v.draw (fun _ ↦ True) (·.AsksAt contents c keys) := by
  obtain ⟨hstands, hfocus, p, hp, hholds⟩ := h
  have hbar : Yields v.updateBar (fun _ ↦ True)
      fun v' ↦ v'.view.StandsAt contents c ∧ v'.focus = .prompt ∧ v'.prompt = some p :=
    hstands.status.bind fun r hr ↦ .of_ok ⟨hr, hfocus, hp⟩
  exact hbar.bind fun v₁ ⟨h₁, hfocus₁, hp₁⟩ ↦ (h₁.draw v₁.screen.clear).bind fun r hr ↦
    AsksAt.drawLastRow ⟨hr, hfocus₁, p, hp₁, hholds⟩

/-- A change of the size of the screen leaves what is typed as it is. -/
theorem AsksAt.refit (h : v.AsksAt contents c keys) (s : Screen) :
    Yields (refit { v with screen := s }) (fun _ ↦ True) (·.AsksAt contents c keys) := by
  obtain ⟨hstands, hfocus, p, hp, hholds⟩ := h
  refine (hstands.scrollToCursor _).bind fun cv hcv ↦ .of_ok ⟨hcv, hfocus, ?_⟩
  change ∃ p', v.prompt.map _ = some p' ∧ _
  rw [hp]
  exact ⟨_, rfl, hholds.retain ⟨hholds.edits.text, hholds.edits.cursor⟩⟩

/-- A key that closes no prompt is typed. -/
theorem AsksAt.key (h : v.AsksAt contents c keys) {k : KeyPress}
    (hk : k.key ≠ .enter ∧ k.key ≠ .escape) :
    Succeeds (v.step (.key k)) fun r ↦ ∃ w, r = some w ∧ w.AsksAt contents c (keys ++ [k.key]) := by
  obtain ⟨hstands, hfocus, p, hp, hholds⟩ := h
  have hanswer : (p.handleKey k.key v.screen).2.2.2 = none := by
    rw [← Option.not_isSome_iff_eq_none, LinePrompt.answer_isSome_iff]
    exact not_or.mpr hk
  have hholds := hholds.handleKey hk v.screen
  simp only [step, hp, promptKey, hanswer]
  exact .of_ok ⟨_, rfl, hstands, hfocus, _, rfl, hholds⟩

/-! ### Closing the prompt -/

/-- A viewer shows a file again, with the cursor of the view at a place. -/
structure ShowsAt (v : Viewer) (contents : ByteArray) (c : Cursor) : Prop where
  stands : v.view.StandsAt contents c
  focus : v.focus = .view
  prompt : v.prompt = none

private theorem closePrompt_showsAt (h : v.view.StandsAt contents c) (hfocus : v.focus = .prompt)
    (hprompt : v.prompt.isSome) : Succeeds v.closePrompt (·.ShowsAt contents c) := by
  obtain ⟨p, hp⟩ := Option.isSome_iff_exists.mp hprompt
  unfold closePrompt dropFocus
  rw [hfocus, hp]
  exact (h.setFocused true _).bind fun r hr ↦ .of_ok ⟨hr, rfl, rfl⟩

/-- A key closes the prompt, and leaves the cursor of the view at a place. -/
def ClosesAt (v : Viewer) (k : Key) (contents : ByteArray) (c : Cursor) : Prop :=
  ∀ ctrl, Succeeds (v.step (.key ⟨k, ctrl⟩)) fun r ↦ ∃ w, r = some w ∧ w.ShowsAt contents c

/-- Esc gives up. -/
theorem AsksAt.escape (h : v.AsksAt contents c keys) : v.ClosesAt .escape contents c := by
  intro ctrl
  obtain ⟨hstands, hfocus, p, hp, hholds⟩ := h
  simp only [step, hp, promptKey, LinePrompt.handleKey]
  exact (closePrompt_showsAt (v := { v with message := "", prompt := some p }) hstands hfocus
    rfl).bind_some

/-- Where the answer to digits leads: to the line they name, or to the last one if there are not so
many. A number that names no line, or that 63 bits do not hold, leads nowhere. -/
def lineNamed (contents : ByteArray) (c : Cursor) (digits : List Char) : Cursor :=
  if 1 ≤ decimalValue digits ∧ decimalValue digits < 2 ^ 63 then
    { c with line := min (decimalValue digits) (ofBytes contents).lines - 1, col := 0 }
  else c

/-- Enter goes to the line that was typed. -/
theorem AsksAt.enter (h : v.AsksAt contents c keys) :
    v.ClosesAt .enter contents (lineNamed contents c (LinePrompt.typed keys).text) := by
  intro ctrl
  obtain ⟨hstands, hfocus, p, hp, hholds⟩ := h
  have hanswer := LinePrompt.answerOf_digits hholds.digits
  rw [lineNamed, ← hholds.edits.text]
  by_cases hnames : 1 ≤ decimalValue p.field.text ∧ decimalValue p.field.text < 2 ^ 63
  · rw [if_pos hnames] at hanswer ⊢
    simp only [step, hp, promptKey, LinePrompt.handleKey, hanswer]
    refine Succeeds.bind_some ((hstands.gotoLine hnames.1 hnames.2 v.screen).bind fun r hr ↦ ?_)
    exact closePrompt_showsAt (v := { ({ v with message := "", prompt := some p } : Viewer).withView
      r.1 with screen := r.2 }) hr hfocus rfl
  · rw [if_neg hnames] at hanswer ⊢
    simp only [step, hp, promptKey, LinePrompt.handleKey, hanswer]
    exact (closePrompt_showsAt (v := { v with message := "", prompt := some p }) hstands hfocus
      rfl).bind_some

/-! ### From opening the prompt to closing it -/

/-- The prompt was opened while a viewer showed a file, and got some keys that did not close it. It
may have been drawn, and the screen may have changed its size, any number of times. -/
inductive Typed (v : Viewer) : List Key → Viewer → Prop
  | opened {ctrl : Bool} {w : Viewer} (h : v.step (.key ⟨.control 'g', ctrl⟩) = .ok (some w)) :
    Typed v [] w
  | drawn {keys : List Key} {w w' : Viewer} (h : Typed v keys w) (hdraw : w.draw = .ok w') :
    Typed v keys w'
  | resized {keys : List Key} {w w' : Viewer} {size : Option (Nat × Nat)} (h : Typed v keys w)
    (hstep : w.step (.resize size) = .ok (some w')) : Typed v keys w'
  | key {keys : List Key} {w w' : Viewer} {k : KeyPress} (h : Typed v keys w)
    (hk : k.key ≠ .enter ∧ k.key ≠ .escape) (hstep : w.step (.key k) = .ok (some w')) :
    Typed v (keys ++ [k.key]) w'

/-- Ctrl+G opens the prompt. -/
theorem ShowsAt.ask (h : v.ShowsAt contents c) (ctrl : Bool) :
    Succeeds (v.step (.key ⟨.control 'g', ctrl⟩)) fun r ↦
      ∃ w, r = some w ∧ w.AsksAt contents c [] := by
  obtain ⟨hstands, hfocus, hprompt⟩ := h
  simp only [step, hprompt, viewKey]
  exact (openPrompt_asksAt (v := { v with message := "", prompt := none }) hstands hfocus).bind_some

/-- Whatever happens while the prompt is open, it holds what was typed. -/
theorem ShowsAt.typed (h : v.ShowsAt contents c) (htyped : v.Typed keys w) :
    w.AsksAt contents c keys := by
  induction htyped with
  | opened hstep =>
    obtain ⟨w, hw, hasks⟩ := (h.ask _).ok hstep
    rwa [Option.some.inj hw]
  | drawn _ hdraw ih => exact ih.draw.ok hdraw
  | resized _ hstep ih =>
    obtain ⟨w, hw, hsome⟩ := bind_eq_ok.mp hstep
    rw [← Option.some.inj (Except.ok.inj hsome)]
    exact (ih.refit _).ok hw
  | key _ hk hstep ih =>
    obtain ⟨w, hw, hasks⟩ := (ih.key hk).ok hstep
    rwa [Option.some.inj hw]

/-- Going to a line goes where it says. Whatever text is shown, wherever the cursor is, and whatever
keys the prompt gets, it holds digits only, edited as in any editor, and the cursor stays. Enter and
Esc bring the one answer of the prompt, which closes it. After Enter the cursor is at the start of
the line that the digits name, or of the last line; it stays if there are no digits, if they name no
line, and if 63 bits do not hold their number. After Esc the cursor is where it was. -/
theorem goes_where_it_says (hstands : v.view.StandsIn contents) (hfocus : v.focus = .view)
    (hprompt : v.prompt = none) (htyped : v.Typed keys w) :
    ∃ p, w.prompt = some p ∧ p.field.text = (LinePrompt.typed keys).text ∧
      (∀ c ∈ p.field.text, IsDigit c) ∧ w.view.cursor = v.view.cursor ∧
      (∀ k s, (p.handleKey k s).2.2.2.isSome ↔ k = .enter ∨ k = .escape) ∧
      (∀ k : KeyPress, k.key ≠ .enter ∧ k.key ≠ .escape →
        ∃ w', w.step (.key k) = .ok (some w') ∧ w'.prompt.isSome) ∧
      w.ClosesAt .enter contents (lineNamed contents v.view.cursor p.field.text) ∧
      w.ClosesAt .escape contents v.view.cursor := by
  have hshows : v.ShowsAt contents v.view.cursor := ⟨⟨hstands, rfl⟩, hfocus, hprompt⟩
  have hasks := hshows.typed htyped
  obtain ⟨p, hp, hholds⟩ := hasks.prompt
  refine ⟨p, hp, hholds.edits.text, hholds.digits, hasks.stands.cursor, p.answer_isSome_iff,
    fun k hk ↦ ?_, ?_, hasks.escape⟩
  · obtain ⟨_, hstep, w', rfl, hw'⟩ := hasks.key hk
    obtain ⟨p', hp', -⟩ := hw'.prompt
    exact ⟨w', hstep, Option.isSome_iff_exists.mpr ⟨p', hp'⟩⟩
  · rw [hholds.edits.text]
    exact hasks.enter

/-- A file of three lines. -/
def threeLines : SourceFile := ⟨"a", "a\nb\nc".toUTF8, none⟩

/-- A machine holds the file of three lines. -/
theorem threeLines_size : ∀ f ∈ [threeLines], f.contents.size < 2 ^ 60 := by
  intro f hf
  rw [List.mem_singleton.mp hf]
  exact show "a\nb\nc".toUTF8.size < 2 ^ 60 by decide +kernel

/-- A nine is typed, and a character that is no digit. There is no ninth line, and Enter goes to the
last one. -/
theorem goes_where_it_says_lastLine :
    ∃ v w, Viewer.new [threeLines] 0 (Screen.empty 20 4) Clipboard.empty.choose.1 Counters.empty []
        = .ok v ∧ v.Typed [.char '9', .char 'x'] w ∧
      w.ClosesAt .enter threeLines.contents { v.view.cursor with line := 2, col := 0 } := by
  have hfiles : ∀ f ∈ [threeLines], f.Searchable fun _ ↦ False := by
    intro f hf
    refine ⟨threeLines_size f hf, ?_⟩
    rw [List.mem_singleton.mp hf]
    exact SourceFile.not_engineFails_of_steady fun l hl ↦ nomatch hl
  have hnew := new_viewing hfiles (List.cons_ne_nil _ _) 0
    (show (Screen.empty 20 4).width < 2 ^ 60 by decide)
    (show (Screen.empty 20 4).height < 2 ^ 60 by decide)
    (show Clipboard.empty.choose.1.method = .internal from rfl) Counters.empty []
  cases hv : Viewer.new [threeLines] 0 (Screen.empty 20 4) Clipboard.empty.choose.1 Counters.empty
    [] with
  | error fault => exact (hnew.error hv).elim
  | ok v =>
    have hviewing := hnew.ok hv
    obtain ⟨f, hf, hpresents⟩ := hviewing.displays
    obtain rfl := List.mem_singleton.mp (List.mem_of_getElem? hf)
    have hshows : v.ShowsAt threeLines.contents v.view.cursor :=
      ⟨⟨hpresents.standsIn, rfl⟩, hviewing.focus, hviewing.prompt⟩
    obtain ⟨_, hstep, w, rfl, hasks⟩ := hshows.ask false
    obtain ⟨_, hstep', w', rfl, hasks'⟩ := hasks.key (k := ⟨.char '9', false⟩) (by decide)
    obtain ⟨_, hstep'', w'', rfl, -⟩ := hasks'.key (k := ⟨.char 'x', false⟩) (by decide)
    have htyped : v.Typed [.char '9', .char 'x'] w'' :=
      .key (.key (.opened hstep) (by decide) hstep') (by decide) hstep''
    obtain ⟨p, -, htext, -, -, -, -, hcloses, -⟩ :=
      goes_where_it_says hpresents.standsIn hviewing.focus hviewing.prompt htyped
    refine ⟨v, w'', rfl, htyped, ?_⟩
    have hlines : (ofBytes threeLines.contents).lines = 3 := by decide +kernel
    have hvalue : decimalValue p.field.text = 9 := by
      rw [htext]
      decide
    rwa [lineNamed, hvalue, hlines] at hcloses

/-- The states of a session that shows the three lines on a screen. -/
def threeLinesStates (width height : Nat) (events : List Event) : List Viewer :=
  Session.states (Screen.empty width height) [threeLines] 0 Clipboard.empty events

/-- Digits are typed that name a line far behind the last one, and Enter is pressed. -/
def farLine : List Event :=
  .ofKey (.control 'g') :: List.replicate 20 (.ofKey (.char '9')) ++ [.ofKey .enter]

/-- The cursor stays where it was, although the digits name a line and the last line is another one:
63 bits do not hold the number. -/
theorem farLine_gives_up :
    ∃ v w, (threeLinesStates 40 4 farLine)[21]? = some v ∧
      (threeLinesStates 40 4 farLine)[22]? = some w ∧
      (∃ p, v.prompt = some p ∧ (∀ c ∈ p.field.text, IsDigit c) ∧ 1 ≤ decimalValue p.field.text) ∧
      w.prompt = none ∧ w.view.cursor.line = 0 ∧ w.view.buffer.lines = 3 := by
  have htest : (threeLinesStates 40 4 farLine)[21]?.any (fun v ↦
      (threeLinesStates 40 4 farLine)[22]?.any fun w ↦
        v.prompt.any (fun p ↦ p.field.text.all (IsDigit ·) &&
          decide (1 ≤ decimalValue p.field.text)) && w.prompt.isNone &&
            decide (w.view.cursor.line = 0) && decide (w.view.buffer.lines = 3)) = true := by
    decide +kernel
  obtain ⟨v, hv, htest⟩ := (Option.any_eq_true _ _).mp htest
  obtain ⟨w, hw, htest⟩ := (Option.any_eq_true _ _).mp htest
  simp only [Bool.and_eq_true, decide_eq_true_eq, Option.isNone_iff_eq_none, Option.any_eq_true,
    List.all_eq_true] at htest
  obtain ⟨⟨⟨hp, hclosed⟩, hline⟩, hlines⟩ := htest
  exact ⟨v, w, hv, hw, hp, hclosed, hline, hlines⟩

end Viewer

end CodeViewer
