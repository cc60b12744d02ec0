import CodeViewer.Pattern.Error

/-!
# Options, blanks and comments

Options are switched by letters in parentheses, for the rest of the group around them. Where
blanks are passed over, so are comments from a number sign to the end of the line; comments in
parentheses always are.
-/

namespace CodeViewer.Pattern

/-- Options that the text of a pattern switches for the rest of the group. -/
structure Options where
  ignoreCase : Bool
  multiline : Bool
  singleLine : Bool
  /-- Groups without a name or number do not count. -/
  namedOnly : Bool
  /-- Blanks are passed over. -/
  spaced : Bool
  deriving DecidableEq, Repr

namespace Options

/-- The options at the start of a pattern. Lines are told apart: `^` and `$` look at line
feeds. -/
def initial : Options := ⟨false, true, false, false, false⟩

/-- Switch the options a letter stands for. Some letters are known and change nothing. -/
def switch? (o : Options) (value : Bool) (c : Char) : Option Options :=
  match c with
  | 'i' | 'I' => some { o with ignoreCase := value }
  | 'm' | 'M' => some { o with multiline := value }
  | 's' | 'S' => some { o with singleLine := value }
  | 'n' | 'N' => some { o with namedOnly := value }
  | 'x' | 'X' => some { o with spaced := value }
  | 'd' | 'D' | 'u' | 'U' => some o
  | _ => none

end Options

/-- Read option letters and signs as far as they go; `value` is what a letter is set to. -/
def readOptions : (value : Bool) → Options → List Char → Options × List Char
  | _, o, [] => (o, [])
  | value, o, c :: rest =>
    if c == '-' then readOptions false o rest
    else if c == '+' then readOptions true o rest
    else
      match o.switch? value c with
      | some o => readOptions value o rest
      | none => (o, c :: rest)

/-- A blank that may be passed over. -/
def isBlank (c : Char) : Bool :=
  c == ' ' || c == '\t' || c == '\n' || c == '\x0c' || c == '\r'

/-- What follows the comments and, if `spaced`, the blanks the text starts with; `fuel` need only
exceed the number of comments. -/
def skipBlanks (spaced : Bool) : (fuel : Nat) → List Char → Except PatternError (List Char)
  | 0, text => .ok text
  | fuel + 1, text =>
    let text := if spaced then text.dropWhile isBlank else text
    match text with
    | '(' :: '?' :: '#' :: rest =>
      match rest.dropWhile (· != ')') with
      | [] => .error .unterminatedComment
      | _ :: more => skipBlanks spaced fuel more
    | '#' :: rest =>
      if spaced then skipBlanks spaced fuel (rest.dropWhile (· != '\n')) else .ok text
    | _ => .ok text

/-- What follows comments and, if the options say so, blanks. -/
def Options.skip (o : Options) (text : List Char) : Except PatternError (List Char) :=
  skipBlanks o.spaced (text.length + 1) text

end CodeViewer.Pattern
