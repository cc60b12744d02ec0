import CodeViewer.Proofs.Screen.Width
import CodeViewer.Proofs.Widget.Bounds
import CodeViewer.Proofs.Widget.InputField

/-!
# The texts of a status bar

The right text of a status bar is drawn in full if the bar has room for it, and the left text is cut
so that it ends in front of it. The room of both is measured, so that they keep apart and inside the
bar if they are drawn as wide as they are measured. A right text that is drawn wider leaves the bar.
-/

namespace CodeViewer

namespace StatusBar

/-- The row of the screen a bar takes. -/
def row (b : StatusBar) : Bounds := { b.bounds with height := 1 }

/-- The text on the left before it is cut. -/
def source (b : StatusBar) : List Char := (b.error.getD b.left).toList

/-- The column the right text is to start in. -/
def rightStart (b : StatusBar) : Int := b.bounds.x + b.bounds.width - Width.ofText b.right.toList

/-- What the bar puts on the screen for its left text. -/
def leftPuts (b : StatusBar) (style : Style) : List Put :=
  textPuts b.bounds.x b.bounds.y style b.leftText

/-- What the bar puts on the screen for its whole right text. -/
def rightPuts (b : StatusBar) (style : Style) : List Put :=
  textPuts b.rightStart b.bounds.y style b.right.toList

/-- There is room for the right text and two more columns, and the edges of the bar are
coordinates. -/
structure HasRoom (b : StatusBar) : Prop where
  room : (Width.ofText b.right.toList : Int) + 2 ≤ b.bounds.width
  width : b.bounds.width < 2 ^ 63
  left : -2 ^ 63 ≤ b.bounds.x
  right : b.bounds.x + b.bounds.width < 2 ^ 63
  top : -2 ^ 63 ≤ b.bounds.y
  bottom : b.bounds.y + 1 < 2 ^ 63

variable {b : StatusBar}

namespace HasRoom

private theorem rightText_eq (h : b.HasRoom) : b.rightText = b.right.toList := by
  have hroom := h.room
  exact if_pos (by omega)

private theorem leftText_eq (h : b.HasRoom) :
    b.leftText = Width.truncate b.source (b.bounds.width - Width.ofText b.right.toList - 1) := by
  have hroom := h.room
  have hwidth := h.width
  rw [leftText, h.rightText_eq, wrap_eq (by omega) (by omega), Int.max_eq_left (by omega)]
  rfl

/-- Behind its background a bar has its left text and then its whole right text. -/
theorem puts_eq (h : b.HasRoom) {style : Style} (hstyle : b.style = .ok style) :
    b.puts = .ok (rectPuts b.bounds.x b.bounds.y b.bounds.width 1 ' ' style ++ b.leftPuts style ++
      b.rightPuts style) := by
  have hroom := h.room
  have hleft := h.left
  have hright := h.right
  have hstart : wrap (b.bounds.x + b.bounds.width - Width.ofText b.right.toList) = b.rightStart :=
    wrap_eq (by omega) (by omega)
  rw [puts, hstyle, h.rightText_eq, rightPuts, ← hstart]
  rfl

private theorem holds_textPuts {text : List Char} {x : Int} {style : Style} (hx : b.bounds.x ≤ x)
    (hstop : x + drawnWidth text ≤ b.bounds.x + b.bounds.width) :
    ∀ p ∈ textPuts x b.bounds.y style text, b.row.Holds b.bounds.y p := by
  intro p hp
  obtain ⟨front, c, back, rfl, rfl⟩ := mem_textPuts_iff.mp hp
  rw [drawnWidth_append, drawnWidth_cons] at hstop
  exact ⟨rfl, show b.bounds.x ≤ x + drawnWidth front by omega,
    show x + drawnWidth front + advanceWidth c ≤ b.bounds.x + b.bounds.width by omega⟩

/-- The right text lies in the bar exactly if it is drawn as wide as it is measured. -/
theorem holds_rightPuts_iff (h : b.HasRoom) (style : Style) :
    (∀ p ∈ b.rightPuts style, b.row.Holds b.bounds.y p) ↔ Width.Measured b.right.toList := by
  have hroom := h.room
  have hwide := Width.ofText_le_drawnWidth b.right.toList
  constructor
  · intro hholds
    have hstart : b.rightStart ≤ b.bounds.x + b.bounds.width := by
      rw [rightStart]
      omega
    have hend := (textPuts_end_le_iff hstart b.bounds.y style).mp fun p hp ↦ (hholds p hp).right
    rw [rightStart] at hend
    rw [Width.Measured]
    omega
  · intro hmeasured
    rw [Width.Measured] at hmeasured
    exact holds_textPuts (by rw [rightStart]; omega) (by rw [rightStart]; omega)

private theorem drawnWidth_leftText_le (h : b.HasRoom) (hmeasured : Width.Measured b.source) :
    b.bounds.x + drawnWidth b.leftText ≤ b.rightStart - 1 := by
  have hroom := h.room
  have hwidth := h.width
  have hcut := hmeasured.drawnWidth_truncate_le
    (show 1 ≤ b.bounds.width - Width.ofText b.right.toList - 1 by omega) (by omega)
  rw [h.leftText_eq, rightStart]
  omega

/-- Texts that are drawn as wide as they are measured are drawn inside the bar. -/
theorem filled (h : b.HasRoom) (hleft : Width.Measured b.source)
    (hright : Width.Measured b.right.toList) (style : Style) :
    b.row.Filled (rectPuts b.bounds.x b.bounds.y b.bounds.width 1 ' ' style ++ b.leftPuts style ++
      b.rightPuts style) := by
  have hroom := h.room
  have hx := h.left
  have hstop := h.right
  have hy := h.top
  have hbottom := h.bottom
  have hend := h.drawnWidth_leftText_le hleft
  rw [rightStart] at hend
  have hback {p : Put} : p ∈ rectPuts b.bounds.x b.bounds.y b.bounds.width 1 ' ' style ↔ _ :=
    mem_rectPuts_row (wrap_eq (by omega) (by omega)) (wrap_eq (by omega) (by omega))
  have hholds {p : Put} (hp : b.row.Holds b.bounds.y p) :
      b.row.y ≤ p.y ∧ p.y < b.row.y + b.row.height ∧ b.row.Holds p.y p := by
    have hrow := hp.row
    exact ⟨show b.bounds.y ≤ p.y by omega, show p.y < b.bounds.y + 1 by omega, rfl, hp.left,
      hp.right⟩
  refine ⟨fun p hp ↦ hholds ?_, fun x y hxy ↦ ?_⟩
  · rcases List.mem_append.mp hp with hp | hp
    · rcases List.mem_append.mp hp with hp | hp
      · obtain ⟨col, hfirst, hlast, rfl⟩ := hback.mp hp
        exact ⟨rfl, hfirst, show col + (1 : Nat) ≤ b.bounds.x + b.bounds.width by omega⟩
      · exact holds_textPuts (Int.le_refl _) (by omega) p hp
    · exact (h.holds_rightPuts_iff style).mpr hright p hp
  · obtain ⟨hfirst, hlast, htop, hlow⟩ := hxy
    have htop : b.bounds.y ≤ y := htop
    have hlow : y < b.bounds.y + 1 := hlow
    exact ⟨_, List.mem_append_left _ (List.mem_append_left _ (hback.mpr ⟨x, hfirst, hlast, rfl⟩)),
      rfl, show b.bounds.y = y by omega⟩

end HasRoom

/-- The texts of a status bar fit if they are drawn as wide as they are measured. A bar that is
wider than its right text by two columns at least is drawn, whatever its texts are and whether it
has an error to show. Its right text is shown in full, character by character, where the screen has
room for it. It lies in the bar exactly if it is drawn as wide as it is measured. If the left text,
before it is cut, is drawn as wide as it is measured, what is drawn of it ends at least one column
in front of the right text. If both texts are, all that is drawn lies in the row of the bar, and no
other cell of the screen is changed. -/
theorem texts_fit (h : b.HasRoom) (s : Screen) :
    ∃ style s', b.style = .ok style ∧ b.draw s = .ok s' ∧
      s' = s.putAll (rectPuts b.bounds.x b.bounds.y b.bounds.width 1 ' ' style ++
        b.leftPuts style ++ b.rightPuts style) ∧
      (s.Filled → ∀ front c back, b.right.toList = front ++ c :: back → ∀ col row : Nat,
        (col : Int) = b.rightStart + drawnWidth front → (row : Int) = b.bounds.y →
          col < s.width → row < s.height → s'.cellAt col row = ⟨c, style⟩) ∧
      ((∀ p ∈ b.rightPuts style, b.row.Holds b.bounds.y p) ↔ Width.Measured b.right.toList) ∧
      (Width.Measured b.source → ∀ p ∈ b.leftPuts style,
        b.row.Holds b.bounds.y p ∧ p.x + advanceWidth p.char < b.rightStart) ∧
      (Width.Measured b.source → Width.Measured b.right.toList →
        b.row.Filled (rectPuts b.bounds.x b.bounds.y b.bounds.width 1 ' ' style ++
          b.leftPuts style ++ b.rightPuts style) ∧
        (s.Filled → ∀ x y : Nat, x < s.width → y < s.height → ¬ b.row.Contains x y →
          s'.cellAt x y = s.cellAt x y)) := by
  obtain ⟨style, hstyle⟩ := b.style_succeeds
  have hroom := h.room
  refine ⟨style, _, hstyle, by rw [draw, h.puts_eq hstyle]; rfl, rfl, ?_,
    h.holds_rightPuts_iff style, fun hleft p hp ↦ ?_, fun hleft hright ↦ ?_⟩
  · intro hs front c back hsplit col row hcol hrow hx hy
    obtain ⟨⟨hwidth, hheight⟩, -⟩ := s.putAll_keeps
      (rectPuts b.bounds.x b.bounds.y b.bounds.width 1 ' ' style ++ b.leftPuts style)
    rw [rightPuts, hsplit, Screen.putAll, List.foldl_append]
    exact Screen.cellAt_textPuts_of_split (hs.putAll _) hcol hrow (hwidth ▸ hx) (hheight ▸ hy) style
  · have hend := h.drawnWidth_leftText_le hleft
    have hinside := HasRoom.holds_textPuts (Int.le_refl _)
      (show b.bounds.x + drawnWidth b.leftText ≤ b.bounds.x + b.bounds.width by
        rw [rightStart] at hend; omega) p hp
    have hapart := (textPuts_end_le_iff (show b.bounds.x ≤ b.rightStart - 1 by omega)
      b.bounds.y style).mpr hend p hp
    exact ⟨hinside, by omega⟩
  · have hfilled := h.filled hleft hright style
    exact ⟨hfilled, fun hs x y hx hy ↦ hfilled.cellAt_outside hs hx hy⟩

/-- A bar with wide characters on both sides, the left ones of which are cut. -/
def wideBar : StatusBar :=
  { new none with left := "日本語.go [go]", right := "漢字  1:1", bounds := ⟨1, 0, 16, 1⟩ }

/-- Wide characters are drawn as wide as they are measured. -/
theorem texts_fit_wideBar :
    wideBar.HasRoom ∧ Width.Measured wideBar.source ∧ Width.Measured wideBar.right.toList ∧
      ∃ style s', wideBar.draw (Screen.empty 20 1) = .ok s' ∧
        (∀ p ∈ wideBar.leftPuts style, p.x + advanceWidth p.char < wideBar.rightStart) ∧
        ∀ x y : Nat, x < 20 → y < 1 → ¬ wideBar.row.Contains x y →
          s'.cellAt x y = (Screen.empty 20 1).cellAt x y := by
  have hroom : wideBar.HasRoom :=
    ⟨by decide +kernel, by decide, by decide, by decide, by decide, by decide⟩
  have hleft : Width.Measured wideBar.source := by decide +kernel
  have hright : Width.Measured wideBar.right.toList := by decide +kernel
  obtain ⟨style, s', -, hdraw, -, -, -, hapart, hinside⟩ := texts_fit hroom (Screen.empty 20 1)
  exact ⟨hroom, hleft, hright, style, s', hdraw, fun p hp ↦ (hapart hleft p hp).2,
    (hinside hleft hright).2 Array.size_replicate⟩

/-- A bar with a letter and a combining mark on the right, which are measured as one cell. -/
def markedBar : StatusBar := { new none with right := "e\u0301", bounds := ⟨0, 0, 10, 1⟩ }

/-- A combining mark is drawn into a cell of its own, which is outside of the bar. -/
theorem text_leaves_markedBar :
    markedBar.HasRoom ∧ ¬ markedBar.row.Contains 10 0 ∧
      Succeeds (markedBar.draw (Screen.empty 12 1)) fun s' ↦
        s'.cellAt 10 0 ≠ (Screen.empty 12 1).cellAt 10 0 := by
  have hdrawn : Succeeds (markedBar.draw (Screen.empty 12 1)) fun s' ↦
      (s'.cellAt 10 0 != (Screen.empty 12 1).cellAt 10 0) = true :=
    Succeeds.of_any (by decide +kernel)
  exact ⟨⟨by decide +kernel, by decide, by decide, by decide, by decide, by decide⟩,
    fun h ↦ absurd h.right (by decide), hdrawn.imp fun _ hr ↦ bne_iff_ne.mp hr⟩

end StatusBar

end CodeViewer
