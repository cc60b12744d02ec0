import CodeViewer.Proofs.Screen.Cells
import CodeViewer.Proofs.Widget.LineEditor

/-!
# The prompt for a line edits digits

The prompt is a line editor that takes digits only. Enter and Esc bring an answer, and no other key
does. The answer to Enter is the line that the digits name.
-/

namespace CodeViewer

open Text (IsDigit decimalValue)

namespace LinePrompt

/-- Whether a key is passed on to the editor if the prompt has no use for it: every one but
characters that are no digits. -/
def passes : Key → Bool
  | .char c => '0' ≤ c && c ≤ '9'
  | _ => true

/-- The editor of a prompt that got some keys. -/
def typed (keys : List Key) : LineEditor := LineEditor.empty.pressAll (keys.filter passes)

/-- A prompt holds the text of an editor, which consists of digits. -/
structure Holds (p : LinePrompt) (e : LineEditor) : Prop where
  edits : p.field.Edits e
  digits : ∀ c ∈ p.field.text, IsDigit c

variable {p : LinePrompt} {e : LineEditor} {keys : List Key} {text : List Char}

private theorem typed_append (keys : List Key) (k : Key) :
    typed (keys ++ [k]) = if passes k then (typed keys).press k else typed keys := by
  rw [typed, List.filter_append, LineEditor.pressAll, List.foldl_append]
  split
  · next hpasses =>
    rw [List.filter_cons_of_pos hpasses]
    rfl
  · next hpasses =>
    rw [List.filter_cons_of_neg hpasses]
    rfl

/-- A new prompt holds no text. -/
theorem holds_new (theme : Option Theme) (b : Bounds) :
    Holds ⟨{ (new theme).field with bounds := b }⟩ (typed []) :=
  ⟨⟨rfl, rfl⟩, fun _ hc ↦ absurd hc List.not_mem_nil⟩

/-- A key that closes no prompt is passed on or swallowed. -/
theorem handleKey_of_open {k : Key} (hk : k ≠ .enter ∧ k ≠ .escape) (p : LinePrompt) (s : Screen) :
    p.handleKey k s = if passes k then p.passOn k s else (true, p, s, none) := by
  cases k with
  | enter => exact absurd rfl hk.1
  | escape => exact absurd rfl hk.2
  | _ => rfl

/-- Enter and Esc bring an answer, and no other key does. -/
theorem answer_isSome_iff (p : LinePrompt) (k : Key) (s : Screen) :
    (p.handleKey k s).2.2.2.isSome ↔ k = .enter ∨ k = .escape := by
  by_cases hk : k ≠ .enter ∧ k ≠ .escape
  · have hnone : (p.handleKey k s).2.2.2 = none := by
      rw [handleKey_of_open hk]
      split
      · rfl
      · rfl
    rw [hnone]
    exact iff_of_false Bool.false_ne_true (not_or.mpr hk)
  · have hk : k = .enter ∨ k = .escape := by
      rw [← not_or, not_not] at hk
      exact hk
    refine iff_of_true ?_ hk
    rcases hk with rfl | rfl
    · rfl
    · rfl

/-- The keys that are passed on type digits only. -/
theorem digits_handleKey {f : InputField} (h : ∀ c ∈ f.text, IsDigit c) {k : Key}
    (hk : passes k = true) (s : Screen) : ∀ c ∈ (f.handleKey k s).2.1.text, IsDigit c := by
  rcases f.handleKey_cases k s with ⟨hstays, -⟩ | ⟨text, cursor, -, htext, hmoved⟩
  · rw [hstays]
    exact h
  · rw [hmoved]
    intro c hc
    rcases htext c hc with hold | rfl
    · exact h c hold
    · exact Text.isDigit_iff.mpr hk

/-- A key that closes no prompt does what it does to an editor, unless it is swallowed. -/
theorem Holds.handleKey (h : p.Holds (typed keys)) {k : Key} (hk : k ≠ .enter ∧ k ≠ .escape)
    (s : Screen) : (p.handleKey k s).2.1.Holds (typed (keys ++ [k])) := by
  rw [handleKey_of_open hk, typed_append]
  by_cases hpasses : passes k
  · rw [if_pos hpasses, if_pos hpasses]
    exact ⟨h.edits.handleKey k s, digits_handleKey h.digits hpasses s⟩
  · rw [if_neg hpasses, if_neg hpasses]
    exact h

/-- A prompt that is drawn or given the focus holds the same text. -/
theorem Holds.retain (h : p.Holds e) {field : InputField} (hedits : field.Edits e) :
    Holds ⟨field⟩ e :=
  ⟨hedits, by
    rw [show field.text = p.field.text from hedits.text.trans h.edits.text.symm]
    exact h.digits⟩

/-- The answer to digits is the line they name, counted from one. Numbers that 63 bits do not hold
name no line. -/
theorem answerOf_digits (h : ∀ c ∈ text, IsDigit c) :
    answerOf text = if 1 ≤ decimalValue text ∧ decimalValue text < 2 ^ 63 then
      .chosen (decimalValue text) else .cancelled := by
  unfold answerOf
  rw [Text.trimSpace_digits h]
  by_cases hne : text = []
  · subst hne
    rfl
  · rw [Text.parseDecimal_digits h hne]
    by_cases hlt : decimalValue text < 2 ^ 63
    · rw [if_pos hlt]
      by_cases hpos : 1 ≤ decimalValue text
      · rw [if_pos ⟨hpos, hlt⟩]
        exact if_neg (by omega)
      · rw [if_neg fun hboth ↦ hpos hboth.1]
        exact if_pos (by omega)
    · rw [if_neg hlt, if_neg fun hboth ↦ hlt hboth.2]

/-! ### The row of the prompt -/

/-- The field of a prompt: it has the label of a prompt, and digits as its text. -/
structure OfPrompt (f : InputField) : Prop where
  label : f.prompt = "Go to line: "
  digits : ∀ c ∈ f.text, IsDigit c

variable {f : InputField}

/-- The field of a new prompt is given the focus. -/
theorem ofPrompt_new (b : Bounds) (s : Screen) :
    OfPrompt ({ (new none).field with bounds := b }.setFocused true s).1 :=
  ⟨rfl, fun _ hc ↦ absurd hc List.not_mem_nil⟩

/-- A key that closes no prompt leaves its field one of a prompt. -/
theorem OfPrompt.handleKey (h : OfPrompt p.field) {k : Key} (hk : k ≠ .enter ∧ k ≠ .escape)
    (s : Screen) : OfPrompt (p.handleKey k s).2.1.field := by
  rw [handleKey_of_open hk]
  split
  · next hpasses =>
    refine ⟨?_, digits_handleKey h.digits hpasses s⟩
    change (p.field.handleKey k s).2.1.prompt = _
    rw [p.field.handleKey_keeps k s]
    exact h.label
  · exact h

private theorem OfPrompt.promptWidth (h : OfPrompt f) :
    f.promptWidth = f.prompt.toList.length ∧ ∀ c ∈ f.prompt.toList, advanceWidth c = 1 := by
  have hcells : ("Go to line: ".toList.all fun c ↦ advanceWidth c == 1) = true := by decide +kernel
  rw [InputField.promptWidth, h.label]
  exact ⟨by decide +kernel, fun c hc ↦ eq_of_beq (List.all_eq_true.mp hcells c hc)⟩

/-- What is in view of the text of a field is the window from the scroll position on. -/
theorem visibleText_eq {text : List Char} (h : f.visibleText = .ok text) :
    text = (f.text.drop f.scroll.toNat).take f.textWidth.toNat := by
  unfold InputField.visibleText at h
  split at h
  · next hempty =>
    rw [List.isEmpty_iff.mp hempty, List.drop_nil, List.take_nil]
    exact (Except.ok.inj h).symm
  · split at h
    · cases h
    · exact (Except.ok.inj h).symm

/-- A field in a row that is wider than its label has its text behind the label, and all the room
that is left. -/
theorem room_of_row {width : Nat} {y : Int} (hbounds : f.bounds = ⟨0, y, width, 1⟩)
    (hwidth : width < 2 ^ 60) (hroom : f.promptWidth < width) :
    f.textX = f.promptWidth ∧ f.textWidth = width - f.promptWidth := by
  have hleft : f.bounds.x = 0 := congrArg Bounds.x hbounds
  have hwide : f.bounds.width = width := congrArg Bounds.width hbounds
  constructor
  · rw [InputField.textX, hleft, wrap_eq (by omega) (by omega), Int.zero_add]
  · rw [InputField.textWidth, hwide, wrap_eq (by omega) (by omega)]
    omega

section

variable {s : Screen} {x y : Nat} (h : OfPrompt f) (hs : s.Filled)
  (hbounds : f.bounds = ⟨0, (s.height : Int) - 1, s.width, 1⟩) (hwidth : s.width < 2 ^ 60)
  (hheight : s.height < 2 ^ 60) (hx : f.promptWidth ≤ x) (hx' : x < s.width)
  (hy : y + 1 = s.height)

include h hs hbounds hwidth hheight hx hx' hy

private theorem OfPrompt.frame_blank (style : Style) :
    (s.putAll (f.framePuts style)).cellAt x y = ⟨' ', style⟩ := by
  obtain ⟨hlabel, hcells⟩ := h.promptWidth
  have hrect {p : Put} : p ∈ rectPuts f.bounds.x f.bounds.y f.bounds.width 1 ' ' style ↔
      ∃ col, 0 ≤ col ∧ col < (s.width : Int) ∧ p = ⟨col, (s.height : Int) - 1, ' ', style⟩ := by
    have hright : wrap (0 + (s.width : Int)) = 0 + s.width := wrap_eq (by omega) (by omega)
    have hbottom : wrap ((s.height : Int) - 1 + 1) = (s.height : Int) - 1 + 1 :=
      wrap_eq (by omega) (by omega)
    rw [hbounds, mem_rectPuts_row hright hbottom, Int.zero_add]
  refine s.cellAt_putAll_of_hit hs hx' (by omega) (fun p hp hthere ↦ ?_) ?_
  · rcases List.mem_append.mp hp with hp | hp
    · obtain ⟨col, -, -, rfl⟩ := hrect.mp hp
      rfl
    · obtain ⟨j, c, hc, rfl⟩ := (mem_textPuts hcells).mp hp
      have hj := (List.getElem?_eq_some_iff.mp hc).1
      rw [hbounds] at hthere
      have hcol : (0 : Int) + j = x := hthere.1
      omega
  · exact ⟨_, List.mem_append_left _ (hrect.mpr ⟨x, by omega, by omega, rfl⟩), rfl,
      show (s.height : Int) - 1 = y by omega⟩

/-- In the last row of a screen the field of a prompt shows the window on its digits behind the
label, and blanks behind them. -/
theorem OfPrompt.row_shows {ps : List Put} (hps : f.puts = .ok ps) :
    ((s.putAll ps).cellAt x y).char =
      (f.text[f.scroll.toNat + (x - f.promptWidth)]?).getD ' ' := by
  obtain ⟨style, -, hps⟩ := bind_eq_ok.mp hps
  obtain ⟨text, htext, hps⟩ := bind_eq_ok.mp hps
  obtain rfl := Except.ok.inj hps
  have hwindow := visibleText_eq htext
  obtain ⟨htextX, htextWidth⟩ := room_of_row hbounds hwidth (Nat.lt_of_le_of_lt hx hx')
  have htop : f.bounds.y = y := by
    rw [hbounds]
    show (s.height : Int) - 1 = y
    omega
  have hroom : x - f.promptWidth < f.textWidth.toNat := by omega
  have hshown : text[x - f.promptWidth]? = f.text[f.scroll.toNat + (x - f.promptWidth)]? := by
    rw [hwindow, List.getElem?_take_of_lt hroom, List.getElem?_drop]
  have hdigits : ∀ c ∈ text, advanceWidth c = 1 := by
    rw [hwindow]
    exact fun c hc ↦
      advanceWidth_digit (h.digits c (List.mem_of_mem_drop (List.mem_of_mem_take hc)))
  obtain ⟨hsame, -, -⟩ := s.putAll_keeps (f.framePuts style)
  have hputs : s.putAll (f.framePuts style ++ textPuts f.textX f.bounds.y style text) =
      (s.putAll (f.framePuts style)).putAll (textPuts f.promptWidth y style text) := by
    rw [Screen.putAll, List.foldl_append, htextX, htop]
    rfl
  rw [hputs, Screen.cellAt_textPuts (hs.putAll _) hdigits hx (by rw [hsame.1]; exact hx')
    (by rw [hsame.2]; omega), h.frame_blank hs hbounds hwidth hheight hx hx' hy style, hshown]
  cases f.text[f.scroll.toNat + (x - f.promptWidth)]? with
  | none => rfl
  | some c => rfl

end

end LinePrompt

end CodeViewer
