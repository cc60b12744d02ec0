import CodeViewer.Proofs.Except
import CodeViewer.Proofs.Screen.Puts
import CodeViewer.Proofs.Widget.Scrolling
import CodeViewer.Widget.LinePrompt
import CodeViewer.Widget.StatusBar

/-!
# Input fields show their text

Whatever is typed into an input field, and however narrow it is made, its text is not scrolled
beyond the cursor. There is then always a part of the text to draw.
-/

namespace CodeViewer

/-! ### Styles -/

private theorem Theme.styleOf_succeeds (theme : Option Theme) {key : String}
    (h : (standard.styles.lookup key).isSome) : ∃ style, Theme.styleOf theme key = .ok style := by
  obtain ⟨style, hstyle⟩ := Option.isSome_iff_exists.mp h
  unfold Theme.styleOf
  split
  · exact ⟨_, rfl⟩
  · rw [hstyle]
    exact ⟨_, rfl⟩

/-- Every status bar has a style. -/
theorem StatusBar.style_succeeds (b : StatusBar) : ∃ style, b.style = .ok style := by
  unfold StatusBar.style
  split
  · exact Theme.styleOf_succeeds b.theme (by decide)
  · exact Theme.styleOf_succeeds b.theme (by decide)

/-- A status bar is drawn, whatever it says. -/
theorem StatusBar.draw_succeeds (b : StatusBar) (s : Screen) :
    ∃ ps, b.draw s = .ok (s.putAll ps) := by
  obtain ⟨style, hstyle⟩ := b.style_succeeds
  exact ⟨_, by rw [StatusBar.draw, StatusBar.puts, hstyle]; rfl⟩

namespace InputField

/-! ### What keys and scrolling do -/

section

variable {f : InputField} {n cursor : Nat}

/-- There is room for the cursor at least. -/
theorem one_le_textWidth (f : InputField) : 1 ≤ f.textWidth := Int.le_max_right _ _

/-- Wherever the text was scrolled to, it is scrolled to the cursor, which is in view then. The room
for the text may be any that leaves its sum with a place in the text in the range of coordinates. -/
theorem scrollFor_bounds (hroom : f.textWidth + n < 2 ^ 63) (hnonneg : 0 ≤ f.scroll)
    (hle : f.scroll ≤ n) (hcursor : cursor ≤ n) :
    0 ≤ f.scrollFor cursor ∧ f.scrollFor cursor ≤ cursor ∧
      cursor < f.scrollFor cursor + f.textWidth := by
  have hpos := f.one_le_textWidth
  unfold scrollFor
  rw [wrap_eq (n := f.scroll + f.textWidth) (by omega) (by omega),
    wrap_eq (n := (cursor : Int) - f.textWidth + 1) (by omega) (by omega)]
  split
  · omega
  · split
    · omega
    · omega

/-- A key leaves a field as it is, if the field does not know it or there is nothing to remove, or
else gives it another text and moves its cursor. At most the character of the key is new. -/
theorem handleKey_cases (f : InputField) (k : Key) (s : Screen) :
    ((f.handleKey k s).2 = (f, s) ∧
      ((f.handleKey k s).1 = false ∨ k = .backspace ∨ k = .delete)) ∨
    ∃ (text : List Char) (cursor : Int), text.length ≤ f.text.length + 1 ∧
      (∀ c ∈ text, c ∈ f.text ∨ k = .char c) ∧
      (f.handleKey k s).2 = setCursor { f with text := text } cursor s := by
  have hmoved (cursor : Int) : ∃ (text : List Char) (cursor' : Int),
      text.length ≤ f.text.length + 1 ∧ (∀ c ∈ text, c ∈ f.text ∨ k = .char c) ∧
        f.setCursor cursor s = setCursor { f with text := text } cursor' s :=
    ⟨f.text, cursor, Nat.le_succ _, fun _ ↦ .inl, rfl⟩
  have hremoved (i : Nat) : f.removeAt i s = (f, s) ∨ ∃ (text : List Char) (cursor : Int),
      text.length ≤ f.text.length + 1 ∧ (∀ c ∈ text, c ∈ f.text ∨ k = .char c) ∧
        f.removeAt i s = setCursor { f with text := text } cursor s := by
    unfold removeAt
    split
    · refine .inr ⟨_, i, ?_, fun c hc ↦ .inl ?_, rfl⟩
      · rw [List.length_append, List.length_take, List.length_drop]
        omega
      · exact (List.mem_append.mp hc).elim List.mem_of_mem_take List.mem_of_mem_drop
    · exact .inl rfl
  cases k with
  | left => exact .inr (hmoved _)
  | right => exact .inr (hmoved _)
  | home => exact .inr (hmoved _)
  | toEnd => exact .inr (hmoved _)
  | backspace =>
    by_cases hstart : f.cursor = 0
    · have hstays : f.remove false s = (f, s) := if_pos hstart
      exact .inl ⟨hstays, .inr (.inl rfl)⟩
    · have hback : f.remove false s = f.removeAt (f.cursor - 1) s := if_neg hstart
      change (f.remove false s = _ ∧ _) ∨ ∃ text cursor, _ ∧ _ ∧ f.remove false s = _
      rw [hback]
      exact (hremoved _).imp (fun h ↦ ⟨h, .inr (.inl rfl)⟩) id
  | delete => exact (hremoved f.cursor).imp (fun h ↦ ⟨h, .inr (.inr rfl)⟩) id
  | char c =>
    refine .inr ⟨_, f.cursor + 1, ?_, fun d hd ↦ ?_, rfl⟩
    · rw [List.length_append, List.length_cons, List.length_take, List.length_drop]
      omega
    · rcases List.mem_append.mp hd with hd | hd
      · exact .inl (List.mem_of_mem_take hd)
      · rcases List.mem_cons.mp hd with rfl | hd
        · exact .inr rfl
        · exact .inl (List.mem_of_mem_drop hd)
  | _ => exact .inl ⟨rfl, .inl rfl⟩

/-- A field that is not scrolled out of its text is drawn, and scrolled to its cursor. -/
theorem draw_succeeds (f : InputField) (s : Screen) (hnonneg : 0 ≤ f.scroll)
    (hle : f.scroll ≤ f.text.length) :
    ∃ ps, f.draw s = .ok (f.setCursor f.cursor (s.putAll ps)) := by
  obtain ⟨style, hstyle⟩ := Theme.styleOf_succeeds f.theme
    (show (Theme.standard.styles.lookup "InputField").isSome by decide)
  have htext : ∃ text, f.visibleText = .ok text := by
    unfold visibleText
    split
    · exact ⟨_, rfl⟩
    · rw [if_neg (by rw [Bool.or_eq_true, decide_eq_true_eq, decide_eq_true_eq]; omega)]
      exact ⟨_, rfl⟩
  obtain ⟨text, htext⟩ := htext
  exact ⟨_, by rw [InputField.draw, puts, hstyle, htext]; rfl⟩

end

/-! ### Fields in order -/

/-- A field with a text of at most `n` characters that is not scrolled beyond its cursor. -/
structure InOrder (f : InputField) (n : Nat) : Prop where
  prompt : f.promptWidth < 2 ^ 60
  width_nonneg : 0 ≤ f.bounds.width
  width_lt : f.bounds.width < 2 ^ 60
  scroll_nonneg : 0 ≤ f.scroll
  scroll_le : f.scroll ≤ f.cursor
  cursor_le : f.cursor ≤ f.text.length
  length_le : f.text.length ≤ n

/-- What may become of a field on a screen: it is in order with at most `n` characters, in the same
place. -/
structure Becomes (f : InputField) (s : Screen) (n : Nat) (r : InputField × Screen) : Prop where
  inOrder : r.1.InOrder n
  bounds : r.1.bounds = f.bounds
  focused : r.1.focused = f.focused
  size : s.SameSize r.2

variable {f : InputField} {n : Nat}

/-- More characters may be allowed. -/
theorem InOrder.mono {m : Nat} (h : f.InOrder n) (hle : n ≤ m) : f.InOrder m :=
  ⟨h.prompt, h.width_nonneg, h.width_lt, h.scroll_nonneg, h.scroll_le, h.cursor_le,
    h.length_le.trans hle⟩

/-- A field may be put in another place. -/
theorem InOrder.withBounds (h : f.InOrder n) {b : Bounds} (hnonneg : 0 ≤ b.width)
    (hlt : b.width < 2 ^ 60) : { f with bounds := b }.InOrder n :=
  ⟨h.prompt, hnonneg, hlt, h.scroll_nonneg, h.scroll_le, h.cursor_le, h.length_le⟩

/-- The room for the text is less than a machine holds. -/
theorem InOrder.textWidth_le (h : f.InOrder n) : f.textWidth ≤ 2 ^ 60 := by
  obtain ⟨hprompt, hnonneg, hlt, -⟩ := h
  unfold textWidth
  rw [wrap_eq (by omega) (by omega)]
  omega

private theorem InOrder.retype (h : f.InOrder n) (hn : n ≤ 2 ^ 60) {text : List Char} {m : Nat}
    (htext : text.length ≤ m) (hm : m ≤ 2 ^ 60) (cursor : Int) (s : Screen) :
    f.Becomes s m (setCursor { f with text := text } cursor s) := by
  have hcursor : min cursor.toNat text.length ≤ 2 ^ 60 := by omega
  have hwidth := h.textWidth_le
  have hfits := h.scroll_le
  have hplace := h.cursor_le
  have hlength := h.length_le
  obtain ⟨hscroll, hle, -⟩ := scrollFor_bounds (show f.textWidth + (2 ^ 60 : Nat) < 2 ^ 63 by omega)
    h.scroll_nonneg (show f.scroll ≤ (2 ^ 60 : Nat) by omega) hcursor
  refine ⟨⟨h.prompt, h.width_nonneg, h.width_lt, hscroll, hle, Nat.min_le_right _ _, htext⟩,
    rfl, rfl, ?_⟩
  change s.SameSize (showCursor _ s)
  unfold showCursor
  split
  · exact ⟨rfl, rfl⟩
  · exact .refl s

/-- The cursor of a field may be moved anywhere. -/
theorem InOrder.setCursor (h : f.InOrder n) (hn : n ≤ 2 ^ 60) (cursor : Int) (s : Screen) :
    f.Becomes s n (f.setCursor cursor s) :=
  h.retype hn h.length_le hn cursor s

/-- A key adds one character at most. -/
theorem InOrder.handleKey (h : f.InOrder n) (hn : n < 2 ^ 60) (k : Key) (s : Screen) :
    f.Becomes s (n + 1) (f.handleKey k s).2 := by
  rcases f.handleKey_cases k s with ⟨hstays, -⟩ | ⟨text, cursor, hlength, -, hmoved⟩
  · rw [hstays]
    exact ⟨h.mono (Nat.le_succ n), rfl, rfl, .refl s⟩
  · rw [hmoved]
    exact h.retype (Nat.le_of_lt hn) (hlength.trans (Nat.succ_le_succ h.length_le)) hn cursor s

/-- The focus is given or taken. -/
theorem InOrder.setFocused (h : f.InOrder n) (hn : n ≤ 2 ^ 60) (b : Bool) (s : Screen) :
    { f with focused := b }.Becomes s n (f.setFocused b s) := by
  have h' : { f with focused := b }.InOrder n :=
    ⟨h.prompt, h.width_nonneg, h.width_lt, h.scroll_nonneg, h.scroll_le, h.cursor_le, h.length_le⟩
  unfold InputField.setFocused
  simp only
  split
  · exact h'.setCursor hn _ s
  · exact ⟨h', rfl, rfl, rfl, rfl⟩

/-- The text of a field in order is drawn. -/
theorem InOrder.draw (h : f.InOrder n) (hn : n ≤ 2 ^ 60) (s : Screen) :
    Succeeds (f.draw s) (f.Becomes s n) := by
  obtain ⟨ps, hdraw⟩ := f.draw_succeeds s h.scroll_nonneg
    (h.scroll_le.trans (Int.ofNat_le.mpr h.cursor_le))
  rw [hdraw]
  refine .of_ok ?_
  obtain ⟨hinOrder, hbounds, hfocused, hsize⟩ := h.setCursor hn f.cursor (s.putAll ps)
  exact ⟨hinOrder, hbounds, hfocused, (s.putAll_keeps ps).1.trans hsize⟩

end InputField

/-! ### The prompt for a line -/

namespace LinePrompt

/-- A new prompt is in order. -/
theorem inOrder_new {b : Bounds} (hnonneg : 0 ≤ b.width) (hlt : b.width < 2 ^ 60) :
    { (new none).field with bounds := b }.InOrder 0 :=
  ⟨show Width.ofText "Go to line: ".toList < 2 ^ 60 by decide +kernel, hnonneg, hlt, Int.le_refl 0,
    Int.le_refl 0, Nat.le_refl 0, Nat.le_refl 0⟩

/-- A key of the prompt adds one character at most. -/
theorem handleKey_becomes {p : LinePrompt} {n : Nat} (h : p.field.InOrder n) (hn : n < 2 ^ 60)
    (k : Key) (s : Screen) :
    p.field.Becomes s (n + 1)
      ((p.handleKey k s).2.1.field, (p.handleKey k s).2.2.1) := by
  have hstays : p.field.Becomes s (n + 1) (p.field, s) :=
    ⟨h.mono (Nat.le_succ n), rfl, rfl, .refl s⟩
  have hpassed : p.field.Becomes s (n + 1) ((p.passOn k s).2.1.field, (p.passOn k s).2.2.1) :=
    h.handleKey hn k s
  unfold handleKey
  split
  · exact hstays
  · exact hstays
  · split
    · exact hpassed
    · exact hstays
  · exact hpassed

end LinePrompt

end CodeViewer
