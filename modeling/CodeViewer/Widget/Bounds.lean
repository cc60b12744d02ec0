/-!
# The place of a widget
-/

namespace CodeViewer

/-- A rectangle of the screen. -/
structure Bounds where
  x : Int
  y : Int
  width : Int
  height : Int
  deriving DecidableEq, Repr

namespace Bounds

/-- Move to another place. -/
def moveTo (b : Bounds) (x y : Int) : Bounds := { b with x := x, y := y }

/-- Take another size. -/
def withSize (b : Bounds) (width height : Int) : Bounds :=
  { b with width := width, height := height }

end Bounds

end CodeViewer
