import CodeViewer.Proofs.Widget.InputField

/-!
# An input field is a line editor

What is typed into an input field is what a plain line editor makes of the same keys: one that knows
the characters before its cursor and those behind it, and nothing of a window on them. Whatever
becomes of the size of the field, it goes on editing in this way. The window is kept at the cursor
as long as the room for the text and the length of the text add up to a coordinate.
-/

namespace CodeViewer

/-! ### The editor -/

/-- A text that is edited at one place: the characters before the place, the nearest one first, and
those behind it. -/
structure LineEditor where
  before : List Char
  behind : List Char
  deriving DecidableEq, Repr

namespace LineEditor

/-- An editor without text. -/
def empty : LineEditor := ⟨[], []⟩

/-- The text that is edited. -/
def text (e : LineEditor) : List Char := e.before.reverse ++ e.behind

/-- What a key does. -/
def press (e : LineEditor) : Key → LineEditor
  | .left =>
    match e.before with
    | [] => e
    | c :: rest => ⟨rest, c :: e.behind⟩
  | .right =>
    match e.behind with
    | [] => e
    | c :: rest => ⟨c :: e.before, rest⟩
  | .home => ⟨[], e.text⟩
  | .toEnd => ⟨e.text.reverse, []⟩
  | .backspace => ⟨e.before.tail, e.behind⟩
  | .delete => ⟨e.before, e.behind.tail⟩
  | .char c => ⟨c :: e.before, e.behind⟩
  | _ => e

/-- What keys do, one after the other. -/
def pressAll (keys : List Key) (e : LineEditor) : LineEditor := keys.foldl press e

variable (before behind : List Char)

private theorem text_cons (c : Char) : text ⟨c :: before, behind⟩ = text ⟨before, c :: behind⟩ := by
  rw [text, List.reverse_cons, List.append_assoc]
  rfl

private theorem take_text : (text ⟨before, behind⟩).take before.length = before.reverse :=
  List.take_left' List.length_reverse

private theorem drop_text : (text ⟨before, behind⟩).drop before.length = behind :=
  List.drop_left' List.length_reverse

end LineEditor

namespace InputField

variable {f : InputField} {e : LineEditor} {n : Nat}

/-! ### Editing -/

/-- A field edits the text of an editor at the place of the editor. -/
structure Edits (f : InputField) (e : LineEditor) : Prop where
  text : f.text = e.text
  cursor : f.cursor = e.before.length

private theorem edits_setCursor {before behind : List Char} {cursor : Int}
    (htext : f.text = before.reverse ++ behind) (hcursor : cursor = before.length) (s : Screen) :
    (f.setCursor cursor s).1.Edits ⟨before, behind⟩ := by
  refine ⟨htext, ?_⟩
  change min cursor.toNat f.text.length = before.length
  rw [hcursor, Int.toNat_natCast, htext, List.length_append, List.length_reverse]
  exact Nat.min_eq_left (Nat.le_add_right _ _)

private theorem edits_removeAt {before behind : List Char} {c : Char}
    (htext : f.text = before.reverse ++ c :: behind) (s : Screen) :
    (f.removeAt before.length s).1.Edits ⟨before, behind⟩ := by
  have htake : f.text.take before.length = before.reverse :=
    htext ▸ LineEditor.take_text before (c :: behind)
  have hdrop : f.text.drop (before.length + 1) = behind := by
    rw [← List.drop_drop, htext]
    exact congrArg (List.drop 1) (LineEditor.drop_text before (c :: behind))
  have hinside : before.length < f.text.length := by
    rw [htext, List.length_append, List.length_reverse, List.length_cons]
    omega
  rw [removeAt, if_pos hinside, htake, hdrop]
  exact edits_setCursor (f := { f with text := before.reverse ++ behind }) rfl rfl s

/-- Every key does to the field what it does to the editor. -/
theorem Edits.handleKey (h : f.Edits e) (k : Key) (s : Screen) :
    (f.handleKey k s).2.1.Edits (e.press k) := by
  obtain ⟨before, behind⟩ := e
  obtain ⟨htext, hcursor⟩ := h
  change f.text = before.reverse ++ behind at htext
  change f.cursor = before.length at hcursor
  cases k with
  | left =>
    change (f.setCursor ((f.cursor : Int) - 1) s).1.Edits _
    cases before with
    | nil =>
      -- The cursor is moved to a place in front of the first one.
      refine ⟨htext, ?_⟩
      rw [hcursor]
      exact Nat.zero_min f.text.length
    | cons c before =>
      refine edits_setCursor (htext.trans (LineEditor.text_cons _ _ _)) ?_ s
      rw [hcursor]
      exact Int.add_sub_cancel before.length 1
  | right =>
    change (f.setCursor ((f.cursor : Int) + 1) s).1.Edits _
    cases behind with
    | nil =>
      -- The cursor is moved to a place behind the last one.
      have hlength : f.text.length = before.length := by
        rw [htext, List.append_nil, List.length_reverse]
      refine ⟨htext, ?_⟩
      change min ((f.cursor : Int) + 1).toNat f.text.length = before.length
      omega
    | cons c behind =>
      refine edits_setCursor (htext.trans (LineEditor.text_cons _ _ _).symm) ?_ s
      rw [hcursor]
      rfl
  | home =>
    have hstart : f.text = [].reverse ++ LineEditor.text ⟨before, behind⟩ := htext
    exact edits_setCursor hstart rfl s
  | toEnd =>
    refine edits_setCursor ?_ ?_ s
    · rw [htext, List.append_nil]
      exact (List.reverse_reverse _).symm
    · rw [htext, List.length_reverse]
      rfl
  | backspace =>
    change (f.remove false s).1.Edits ⟨before.tail, behind⟩
    cases before with
    | nil =>
      have hstays : f.remove false s = (f, s) := if_pos hcursor
      rw [hstays]
      exact ⟨htext, hcursor⟩
    | cons c before =>
      have hstart : f.cursor ≠ 0 := by
        rw [hcursor]
        exact Nat.succ_ne_zero before.length
      have hback : f.remove false s = f.removeAt (f.cursor - 1) s := if_neg hstart
      rw [hback, hcursor]
      exact edits_removeAt (htext.trans (LineEditor.text_cons _ _ _)) s
  | delete =>
    change (f.removeAt f.cursor s).1.Edits ⟨before, behind.tail⟩
    rw [hcursor]
    cases behind with
    | nil =>
      have hstays : f.removeAt before.length s = (f, s) := by
        refine if_neg ?_
        rw [htext, List.append_nil, List.length_reverse]
        exact Nat.lt_irrefl _
      rw [hstays]
      exact ⟨htext, hcursor⟩
    | cons c behind => exact edits_removeAt htext s
  | char c =>
    refine edits_setCursor ?_ (by rw [hcursor]; rfl) s
    change f.text.take f.cursor ++ c :: f.text.drop f.cursor = _
    have htake : f.text.take before.length = before.reverse :=
      htext ▸ LineEditor.take_text before behind
    have hdrop : f.text.drop before.length = behind :=
      htext ▸ LineEditor.drop_text before behind
    rw [hcursor, htake, hdrop]
    exact (LineEditor.text_cons _ _ _).symm
  | _ => exact ⟨htext, hcursor⟩

private theorem Edits.setCursor_self (h : f.Edits e) (s : Screen) :
    (f.setCursor f.cursor s).1.Edits e := by
  exact edits_setCursor h.text (congrArg Int.ofNat h.cursor) s

/-- A field that is given the focus, or from which it is taken, goes on editing the same text. -/
theorem Edits.setFocused (h : f.Edits e) (given : Bool) (s : Screen) :
    (f.setFocused given s).1.Edits e := by
  have h' : { f with focused := given }.Edits e := ⟨h.text, h.cursor⟩
  unfold InputField.setFocused
  simp only
  split
  · exact h'.setCursor_self s
  · exact h'

/-- A field that is drawn goes on editing the same text. -/
theorem Edits.draw (h : f.Edits e) (s : Screen) :
    Yields (f.draw s) (fun _ ↦ True) (·.1.Edits e) :=
  (Yields.anything f.puts).bind fun ps _ ↦ h.setCursor_self (s.putAll ps)

/-! ### The window on the text -/

/-- The cursor is in the window on the text. -/
def InWindow (f : InputField) : Prop := f.cursor < f.scroll + f.textWidth

/-- The window on the text does not start behind the cursor, and its end is in the range of
coordinates wherever the window starts in a text of at most `n` characters. -/
structure Windowed (f : InputField) (n : Nat) : Prop where
  room : f.textWidth + n < 2 ^ 63
  scroll_nonneg : 0 ≤ f.scroll
  scroll_le : f.scroll ≤ f.cursor
  cursor_le : f.cursor ≤ f.text.length

/-- A field in order has room for a text of any length that a machine holds. -/
theorem InOrder.windowed (h : f.InOrder n) : f.Windowed (2 ^ 61) := by
  have hwidth := h.textWidth_le
  exact ⟨by omega, h.scroll_nonneg, h.scroll_le, h.cursor_le⟩

/-- Wherever the cursor of a field is moved, with whatever text, it is in the window. -/
theorem Windowed.retype (h : f.Windowed n) (hlength : f.text.length ≤ n) {text : List Char}
    (htext : text.length ≤ n) (cursor : Int) (s : Screen) :
    (setCursor { f with text := text } cursor s).1.Windowed n ∧
      (setCursor { f with text := text } cursor s).1.InWindow := by
  have hscroll := h.scroll_le
  have hcursor := h.cursor_le
  obtain ⟨hnonneg, hle, hlt⟩ := scrollFor_bounds h.room h.scroll_nonneg (by omega)
    (show min cursor.toNat text.length ≤ n by omega)
  exact ⟨⟨h.room, hnonneg, hle, Nat.min_le_right _ _⟩, hlt⟩

/-- A key does not change the prompt. -/
theorem handleKey_keeps (f : InputField) (k : Key) (s : Screen) :
    (f.handleKey k s).2.1.prompt = f.prompt := by
  rcases f.handleKey_cases k s with ⟨hstays, -⟩ | ⟨text, cursor, -, -, hmoved⟩
  · rw [hstays]
  · rw [hmoved]
    rfl

/-- The cursor is in the window after every key that moved it or changed the text. -/
theorem Windowed.handleKey (h : f.Windowed n) (hlength : f.text.length + 1 ≤ n) (k : Key)
    (s : Screen) :
    (f.handleKey k s).2.1.Windowed n ∧
      (f.handleKey k s).2.1.text.length ≤ f.text.length + 1 ∧
      ((f.handleKey k s).1 = true →
        (k = .backspace ∨ k = .delete → (f.handleKey k s).2.1.text ≠ f.text) →
          (f.handleKey k s).2.1.InWindow) := by
  rcases f.handleKey_cases k s with ⟨hstays, hwhy⟩ | ⟨text, cursor, htext, -, hmoved⟩
  · rw [hstays]
    refine ⟨h, Nat.le_succ _, fun hknown hremoves ↦ ?_⟩
    rcases hwhy with hunknown | hk
    · exact absurd (hunknown.symm.trans hknown) Bool.false_ne_true
    · exact absurd rfl (hremoves hk)
  · rw [hmoved]
    obtain ⟨hwindowed, hinWindow⟩ :=
      h.retype (Nat.le_of_succ_le hlength) (htext.trans hlength) cursor s
    exact ⟨hwindowed, htext, fun _ _ ↦ hinWindow⟩

/-- A cursor that was in the window is in it after every key. -/
theorem Windowed.handleKey_inWindow (h : f.Windowed n) (hlength : f.text.length + 1 ≤ n)
    (hin : f.InWindow) (k : Key) (s : Screen) : (f.handleKey k s).2.1.InWindow := by
  rcases f.handleKey_cases k s with ⟨hstays, -⟩ | ⟨text, cursor, htext, -, hmoved⟩
  · rw [hstays]
    exact hin
  · rw [hmoved]
    exact (h.retype (Nat.le_of_succ_le hlength) (htext.trans hlength) cursor s).2

/-- A field whose cursor is in the window is not scrolled by drawing it. -/
theorem Windowed.setCursor_self (h : f.Windowed n) (hlength : f.text.length ≤ n)
    (hin : f.InWindow) (s : Screen) : (f.setCursor f.cursor s).1 = f := by
  obtain ⟨hroom, hnonneg, hle, hcursor⟩ := h
  have hpos := f.one_le_textWidth
  unfold InWindow at hin
  have hplace : min (f.cursor : Int).toNat f.text.length = f.cursor := by omega
  have hscroll : f.scrollFor f.cursor = f.scroll := by
    rw [scrollFor, wrap_eq (by omega) (by omega), if_neg (by omega), if_neg (by omega)]
  change { f with
    cursor := min (f.cursor : Int).toNat f.text.length
    scroll := f.scrollFor (min (f.cursor : Int).toNat f.text.length) } = f
  rw [hplace, hscroll]

/-- A field that is not scrolled beyond its cursor is drawn. -/
theorem Windowed.draw (h : f.Windowed n) (s : Screen) :
    ∃ ps, f.draw s = .ok (f.setCursor f.cursor (s.putAll ps)) :=
  f.draw_succeeds s h.scroll_nonneg (h.scroll_le.trans (Int.ofNat_le.mpr h.cursor_le))

/-! ### A field in use -/

/-- What may happen to a field. -/
inductive Happening where
  | resize (width height : Int)
  | key (k : Key)
  | focus (given : Bool)
  | draw

/-- Give a field another size. -/
def resize (f : InputField) (width height : Int) : InputField :=
  { f with bounds := f.bounds.withSize width height }

/-- What becomes of a field on a screen. -/
def happen (r : InputField × Screen) : Happening → Except Fault (InputField × Screen)
  | .resize width height => .ok (r.1.resize width height, r.2)
  | .key k => .ok (r.1.handleKey k r.2).2
  | .focus given => .ok (r.1.setFocused given r.2)
  | .draw => r.1.draw r.2

/-- What becomes of it by several things that happen, one after the other. -/
def happenAll (hs : List Happening) (r : InputField × Screen) :
    Except Fault (InputField × Screen) :=
  hs.foldlM happen r

/-- The keys that are pressed. -/
def keysOf (hs : List Happening) : List Key :=
  hs.filterMap fun
    | .key k => some k
    | _ => none

/-- The widths a field is given. -/
def widthsOf (hs : List Happening) : List Int :=
  hs.filterMap fun
    | .resize width _ => some width
    | _ => none

private theorem keysOf_cons (what : Happening) (hs : List Happening) :
    keysOf (what :: hs) = keysOf [what] ++ keysOf hs := by
  cases what with
  | _ => rfl

private theorem widthsOf_cons (what : Happening) (hs : List Happening) :
    widthsOf (what :: hs) = widthsOf [what] ++ widthsOf hs := by
  cases what with
  | _ => rfl

variable {r : InputField × Screen}

/-- Only keys do something to the editor. -/
theorem Edits.happen (h : r.1.Edits e) (what : Happening) :
    Yields (happen r what) (fun _ ↦ True) (·.1.Edits (e.pressAll (keysOf [what]))) := by
  cases what with
  | resize width height => exact ⟨h.text, h.cursor⟩
  | key k => exact h.handleKey k r.2
  | focus given => exact h.setFocused given r.2
  | draw => exact h.draw r.2

/-- Whatever happens to a field that edits a text, it goes on editing it. -/
theorem Edits.happenAll (h : r.1.Edits e) (hs : List Happening) :
    Yields (happenAll hs r) (fun _ ↦ True) (·.1.Edits (e.pressAll (keysOf hs))) := by
  induction hs generalizing r e with
  | nil => exact h
  | cons what hs ih =>
    rw [keysOf_cons, LineEditor.pressAll, List.foldl_append]
    unfold InputField.happenAll
    rw [List.foldlM_cons]
    exact (h.happen what).bind fun r' h' ↦ ih h'

/-- What happens to a field does not move the window out of the text. -/
theorem Windowed.happen (h : r.1.Windowed n) (what : Happening)
    (hlength : r.1.text.length + (keysOf [what]).length ≤ n)
    (hroom : ∀ w ∈ widthsOf [what], (r.1.resize w 1).textWidth + n < 2 ^ 63) :
    Succeeds (happen r what) fun r' ↦ r'.1.Windowed n ∧ r'.1.prompt = r.1.prompt ∧
      r'.1.text.length ≤ r.1.text.length + (keysOf [what]).length := by
  cases what with
  | resize width height =>
    exact .of_ok ⟨⟨hroom width List.mem_cons_self, h.scroll_nonneg, h.scroll_le, h.cursor_le⟩, rfl,
      Nat.le_refl _⟩
  | key k =>
    obtain ⟨hwindowed, htext, -⟩ := h.handleKey hlength k r.2
    exact .of_ok ⟨hwindowed, r.1.handleKey_keeps k r.2, htext⟩
  | focus given =>
    have h' : { r.1 with focused := given }.Windowed n :=
      ⟨h.room, h.scroll_nonneg, h.scroll_le, h.cursor_le⟩
    refine .of_ok ?_
    unfold InputField.setFocused
    simp only
    split
    · exact ⟨(h'.retype hlength hlength _ r.2).1, rfl, Nat.le_refl _⟩
    · exact ⟨h', rfl, Nat.le_refl _⟩
  | draw =>
    obtain ⟨ps, hdraw⟩ := h.draw r.2
    change Succeeds (r.1.draw r.2) _
    rw [hdraw]
    exact .of_ok ⟨(h.retype hlength hlength _ _).1, rfl, Nat.le_refl _⟩

/-- Whatever happens to a field, as long as there is room in the range of coordinates, its window is
not moved out of the text. -/
theorem Windowed.happenAll (h : r.1.Windowed n) (hs : List Happening)
    (hlength : r.1.text.length + (keysOf hs).length ≤ n)
    (hroom : ∀ w ∈ widthsOf hs, (r.1.resize w 1).textWidth + n < 2 ^ 63) :
    Succeeds (happenAll hs r) fun r' ↦ r'.1.Windowed n ∧
      r'.1.text.length ≤ r.1.text.length + (keysOf hs).length := by
  induction hs generalizing r with
  | nil => exact .of_ok ⟨h, Nat.le_refl _⟩
  | cons what hs ih =>
    rw [keysOf_cons, List.length_append] at hlength ⊢
    rw [widthsOf_cons] at hroom
    unfold InputField.happenAll
    rw [List.foldlM_cons]
    refine (h.happen what (by omega) fun w hw ↦ hroom w (List.mem_append_left _ hw)).bind
      fun r' ⟨hr, hprompt, htext⟩ ↦ ?_
    have hsame (w : Int) : (r'.1.resize w 1).textWidth = (r.1.resize w 1).textWidth := by
      unfold textWidth promptWidth resize Bounds.withSize
      rw [hprompt]
    refine (ih hr (by omega) fun w hw ↦ ?_).imp fun r'' ⟨hr', htext'⟩ ↦ ⟨hr', by omega⟩
    rw [hsame]
    exact hroom w (List.mem_append_right _ hw)

/-- An input field is a line editor. Whatever prompt it has, whatever keys it gets, in whatever
sizes it is shown and whenever it is drawn, its text and its cursor are those of an editor that gets
the same keys. The text is not scrolled beyond the cursor, so that there is always a part of it to
draw, and the cursor is in the window on the text after every key that moved it or changed the text.

Coordinates have 64 bits. For the window it takes that the room for the text and the number of keys
add up to one, in every width the field is given. -/
theorem edits_as_line_editor (prompt : String) (theme : Option Theme) (b : Bounds) (s : Screen)
    (hs : List Happening) :
    Yields (happenAll hs ({ new prompt theme with bounds := b }, s)) (fun _ ↦ True)
      (fun r ↦ r.1.Edits (LineEditor.empty.pressAll (keysOf hs))) ∧
    ((∀ w ∈ b.width :: widthsOf hs,
        ((new prompt theme).resize w 1).textWidth + ((keysOf hs).length + 1 : Nat) < 2 ^ 63) →
      Succeeds (happenAll hs ({ new prompt theme with bounds := b }, s)) fun r ↦
        0 ≤ r.1.scroll ∧ r.1.scroll ≤ r.1.cursor ∧ r.1.cursor ≤ r.1.text.length ∧
        (∃ r', r.1.draw r.2 = .ok r') ∧
        ∀ k, (r.1.handleKey k r.2).1 = true →
          (k = .backspace ∨ k = .delete → (r.1.handleKey k r.2).2.1.text ≠ r.1.text) →
            (r.1.handleKey k r.2).2.1.InWindow) := by
  have hnew : { new prompt theme with bounds := b }.Edits LineEditor.empty := ⟨rfl, rfl⟩
  refine ⟨Edits.happenAll (r := (_, s)) hnew hs, fun hroom ↦ ?_⟩
  have hwindowed : { new prompt theme with bounds := b }.Windowed ((keysOf hs).length + 1) :=
    ⟨hroom b.width List.mem_cons_self, Int.le_refl 0, Int.le_refl 0, Nat.le_refl 0⟩
  have hlength : (new prompt theme).text.length + (keysOf hs).length ≤ (keysOf hs).length + 1 := by
    rw [show (new prompt theme).text.length = 0 from rfl]
    omega
  refine (Windowed.happenAll (r := (_, s)) hwindowed hs hlength
    fun w hw ↦ hroom w (List.mem_cons_of_mem _ hw)).imp fun r ⟨h, htext⟩ ↦ ?_
  have htext : r.1.text.length ≤ 0 + (keysOf hs).length := htext
  obtain ⟨ps, hdraw⟩ := h.draw r.2
  exact ⟨h.scroll_nonneg, h.scroll_le, h.cursor_le, ⟨_, hdraw⟩,
    fun k ↦ (h.handleKey (by omega) k r.2).2.2⟩

/-- A text is typed, the field is made narrow, and a character is removed in front of the last. -/
def narrowed : List Happening :=
  [.focus true, .key (.char 'a'), .key (.char 'b'), .key (.char 'c'), .resize 4 1, .key .left,
    .key .backspace, .draw]

/-- The editor has two characters left, and the window starts in front of the cursor. -/
theorem edits_as_line_editor_narrowed :
    Succeeds (happenAll narrowed ({ new "> " none with bounds := ⟨0, 0, 9, 1⟩ }, Screen.empty 9 1))
      fun r ↦ r.1.text = ['a', 'c'] ∧ r.1.cursor = 1 ∧ 0 ≤ r.1.scroll ∧ r.1.scroll ≤ 1 ∧
        (r.1.handleKey .left r.2).2.1.InWindow := by
  have heditor := edits_as_line_editor "> " none ⟨0, 0, 9, 1⟩ (Screen.empty 9 1) narrowed
  -- The run itself is not to be evaluated here.
  generalize happenAll narrowed _ = run at heditor ⊢
  obtain ⟨r, hr, hnonneg, hle, -, -, hkey⟩ := heditor.2 (by decide +kernel)
  obtain ⟨htext, hcursor⟩ := heditor.1.ok hr
  have hplace : r.1.cursor = 1 := hcursor
  rw [hplace] at hle
  exact ⟨r, hr, htext, hplace, hnonneg, hle, hkey .left rfl fun hremoves ↦ by simp at hremoves⟩

/-- A text is typed in a narrow field, a key pressed while it is as wide as a coordinate can say,
and the field made narrow again. -/
def widened : List Happening :=
  "abcdefgh".toList.map (.key ∘ .char) ++
    [.resize 9223372036854775807 1, .key .left, .resize 6 1]

/-- Where the room for the text and the place of the window add up to no coordinate, the text is
scrolled out of the window, and the field cannot be drawn. -/
theorem scrolled_out_of_range :
    Succeeds (happenAll widened ({ new "> " none with bounds := ⟨0, 0, 6, 1⟩ }, Screen.empty 10 1))
      fun r ↦ r.1.scroll < 0 ∧ ∀ r', r.1.draw r.2 ≠ .ok r' := by
  have htest : (happenAll widened ({ new "> " none with bounds := ⟨0, 0, 6, 1⟩ },
      Screen.empty 10 1)).toOption.any
        (fun r ↦ r.1.scroll < 0 && !(r.1.draw r.2).isOk) = true := by
    decide +kernel
  refine (Succeeds.of_any htest).imp fun r hr ↦ ?_
  rw [Bool.and_eq_true, decide_eq_true_eq, Bool.not_eq_true'] at hr
  refine ⟨hr.1, fun r' hdraw ↦ ?_⟩
  rw [hdraw] at hr
  cases hr.2

end InputField

end CodeViewer
