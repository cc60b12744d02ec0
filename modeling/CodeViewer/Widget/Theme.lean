import CodeViewer.Fault
import CodeViewer.Screen.Style

/-!
# Themes

A theme gives styles to the parts of widgets, by name. What a theme leaves out is taken from
the standard theme.
-/

namespace CodeViewer

/-- Styles by name. -/
structure Theme where
  styles : List (String × Style)
  deriving Repr

namespace Theme

/-- The theme that fills the gaps of others. -/
def standard : Theme :=
  ⟨[("InputField", ⟨"white", "navy"⟩),
    ("StatusBar", ⟨"black", "silver"⟩),
    ("StatusBarError", ⟨"white", "maroon"⟩)]⟩

/-- The style of a name in an optional theme. -/
def styleOf (theme : Option Theme) (key : String) : Except Fault Style :=
  match theme.bind (·.styles.lookup key) with
  | some style => .ok style
  | none =>
    match standard.styles.lookup key with
    | some style => .ok style
    | none => .error (.missingStyle key)

end Theme

end CodeViewer
