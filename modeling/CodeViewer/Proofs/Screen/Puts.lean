import CodeViewer.Screen.Basic

/-!
# What drawing leaves of a screen

Only a change of its size changes the size of a screen, and only what places the cursor moves it.
-/

namespace CodeViewer

namespace Screen

/-- Two screens of the same size. -/
def SameSize (s s' : Screen) : Prop := s'.width = s.width ∧ s'.height = s.height

/-- A screen has its own size. -/
theorem SameSize.refl (s : Screen) : s.SameSize s := ⟨rfl, rfl⟩

/-- Two screens have the same size if both have that of a third one. -/
theorem SameSize.trans {s s' s'' : Screen} (h : s.SameSize s') (h' : s'.SameSize s'') :
    s.SameSize s'' := ⟨h'.1.trans h.1, h'.2.trans h.2⟩

/-- Characters that are put on a screen change neither its size nor the place of its cursor. -/
theorem putAll_keeps (s : Screen) (ps : List Put) :
    s.SameSize (s.putAll ps) ∧ (s.putAll ps).cursorX = s.cursorX ∧
      (s.putAll ps).cursorY = s.cursorY := by
  induction ps generalizing s with
  | nil => exact ⟨.refl s, rfl, rfl⟩
  | cons p ps ih =>
    have hput : s.SameSize (s.put p) ∧ (s.put p).cursorX = s.cursorX ∧
        (s.put p).cursorY = s.cursorY := by
      unfold put
      split
      · exact ⟨⟨rfl, rfl⟩, rfl, rfl⟩
      · exact ⟨.refl s, rfl, rfl⟩
    obtain ⟨hsize, hx, hy⟩ := ih (s.put p)
    exact ⟨hput.1.trans hsize, hx.trans hput.2.1, hy.trans hput.2.2⟩

/-- A cursor that is placed where it is stays there. -/
theorem showCursor_self {s : Screen} {x y : Int} (hx : s.cursorX = x) (hy : s.cursorY = y) :
    s.showCursor x y = s := by
  subst hx
  subst hy
  rfl

end Screen

end CodeViewer
