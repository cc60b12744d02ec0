import CodeViewer.Proofs.Screen.Cells
import CodeViewer.Widget.Bounds

/-!
# Rectangles that are filled

A widget fills its rectangle if it puts characters into all cells of it and into no other ones.
-/

namespace CodeViewer

namespace Bounds

/-- A column and row belong to a rectangle. -/
structure Contains (b : Bounds) (x y : Int) : Prop where
  left : b.x ≤ x
  right : x < b.x + b.width
  top : b.y ≤ y
  bottom : y < b.y + b.height

/-- A character that is put into a row of a rectangle lies there with all of its cells. -/
structure Holds (b : Bounds) (y : Int) (p : Put) : Prop where
  row : p.y = y
  left : b.x ≤ p.x
  right : p.x + advanceWidth p.char ≤ b.x + b.width

/-- Some characters are put into a row of a rectangle, one into each of its cells at least. -/
structure RowFilled (b : Bounds) (y : Int) (ps : List Put) : Prop where
  inside : ∀ p ∈ ps, b.Holds y p
  covered : ∀ x, b.x ≤ x → x < b.x + b.width → ∃ p ∈ ps, p.x = x

/-- Some characters are put into a rectangle, one into each of its cells at least. -/
structure Filled (b : Bounds) (ps : List Put) : Prop where
  inside : ∀ p ∈ ps, b.y ≤ p.y ∧ p.y < b.y + b.height ∧ b.Holds p.y p
  covered : ∀ x y, b.Contains x y → ∃ p ∈ ps, p.x = x ∧ p.y = y

variable {b : Bounds} {ps : List Put}

/-- A rectangle is filled row by row. -/
theorem filled_of_rows {rows : List (List Put)}
    (hback : ∀ row ∈ rows, ∃ y ∈ interval b.y (b.y + b.height), b.RowFilled y row)
    (hforth : ∀ y ∈ interval b.y (b.y + b.height), ∃ row ∈ rows, b.RowFilled y row) :
    b.Filled rows.flatten := by
  constructor
  · intro p hp
    obtain ⟨row, hrow, hp⟩ := List.mem_flatten.mp hp
    obtain ⟨y, hy, hfilled⟩ := hback row hrow
    obtain ⟨rfl, hleft, hright⟩ := hfilled.inside p hp
    rw [mem_interval] at hy
    exact ⟨hy.1, hy.2, rfl, hleft, hright⟩
  · intro x y ⟨hleft, hright, htop, hbottom⟩
    obtain ⟨row, hrow, hfilled⟩ := hforth y (mem_interval.mpr ⟨htop, hbottom⟩)
    obtain ⟨p, hp, hx⟩ := hfilled.covered x hleft hright
    exact ⟨p, List.mem_flatten.mpr ⟨row, hrow, hp⟩, hx, (hfilled.inside p hp).row⟩

/-- Cells outside of a rectangle stay as they are when it is filled. -/
theorem Filled.cellAt_outside (h : b.Filled ps) {s : Screen} (hs : s.Filled) {x y : Nat}
    (hx : x < s.width) (hy : y < s.height) (hout : ¬ b.Contains x y) :
    (s.putAll ps).cellAt x y = s.cellAt x y := by
  refine Screen.cellAt_putAll_of_not_hit hs hx hy fun p hp ⟨hpx, hpy⟩ ↦ hout ?_
  obtain ⟨htop, hbottom, -, hleft, hright⟩ := h.inside p hp
  have hcells := one_le_advanceWidth p.char
  exact ⟨by omega, by omega, by omega, by omega⟩

end Bounds

end CodeViewer
