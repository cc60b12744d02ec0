/-!
# Styles

The look of a cell: a foreground and a background colour, each given by its name.
-/

namespace CodeViewer

/-- A colour of the terminal, by name. -/
abbrev Color := String

/-- The look of a cell. -/
structure Style where
  foreground : Color
  background : Color
  deriving DecidableEq, Repr, Inhabited

namespace Style

/-- The colours a terminal uses by itself. -/
def default : Style := ⟨"default", "default"⟩

/-- A style as `foreground/background`. -/
def render (s : Style) : String := s.foreground ++ "/" ++ s.background

end Style

end CodeViewer
