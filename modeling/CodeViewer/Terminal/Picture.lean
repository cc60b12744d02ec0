import CodeViewer.Screen.Basic

/-!
# Screens on a terminal

A screen is sent to a terminal as text with control sequences for colours and for the place of
the cursor.
-/

namespace CodeViewer.Terminal

/-- A control sequence. -/
def control (s : String) : String := "\x1b[" ++ s

/-- The numbers of the colours in the palette of a terminal. -/
def palette : List (Color × Nat) :=
  [("black", 0), ("maroon", 1), ("green", 2), ("olive", 3), ("navy", 4), ("purple", 5),
   ("teal", 6), ("silver", 7), ("gray", 8), ("red", 9), ("lime", 10), ("yellow", 11),
   ("blue", 12), ("fuchsia", 13), ("aqua", 14), ("white", 15), ("darkgray", 248),
   ("lightgray", 252)]

/-- What selects a colour: `inPalette` is in front of its number, `byItself` stands for a colour
that the palette does not have. -/
def selectColor (inPalette byItself : String) (c : Color) : String :=
  match palette.lookup c with
  | some n => inPalette ++ toString n
  | none => byItself

/-- What selects a style. -/
def selectStyle (s : Style) : String :=
  control (selectColor "38;5;" "39" s.foreground ++ ";" ++ selectColor "48;5;" "49" s.background
    ++ "m")

/-- What moves the cursor to a column and row. -/
def moveTo (x y : Nat) : String := control (toString (y + 1) ++ ";" ++ toString (x + 1) ++ "H")

/-- What draws one cell at a column and row. -/
def cellText (x y : Nat) (c : Cell) : String :=
  moveTo x y ++ selectStyle c.style ++ String.ofList [c.shown]

/-- What draws one row. -/
def rowText (s : Screen) (y : Nat) : String :=
  String.join ((List.range s.width).map (fun x ↦ cellText x y (s.cellAt x y)))

/-- What draws a screen and places the cursor. -/
def picture (s : Screen) : String :=
  let rows := String.join ((List.range s.height).map (rowText s))
  let cursor :=
    match s.cursor? with
    | some (x, y) => control "?25h" ++ moveTo x y
    | none => control "?25l"
  control "?25l" ++ rows ++ control "0m" ++ cursor

/-- What leaves the screen empty behind the program. -/
def farewell : String := control "0m" ++ control "2J" ++ control "H" ++ control "?25h"

end CodeViewer.Terminal
