import CodeViewer.Grammar.Basic
import CodeViewer.Screen.Style

/-!
# Groups of classes and their colours

Classes are drawn by groups. A colour scheme gives each group a style; a group without one is
drawn like the default group, and without that in the colours of the terminal.
-/

namespace CodeViewer

/-- What classes are drawn alike as. -/
inductive Group where
  | default
  /-- The column of line numbers. -/
  | column
  | keyword
  | string
  | special
  | type
  | number
  | builtin
  | comment
  | docComment
  | operator
  | title
  | unknown
  deriving DecidableEq, Repr

namespace Group

/-- All groups. -/
def all : List Group :=
  [default, column, keyword, string, special, type, number, builtin, comment, docComment,
   operator, title, unknown]

/-- The name of a group. -/
def name : Group → String
  | default => "default"
  | column => "column"
  | keyword => "keyword"
  | string => "string"
  | special => "special"
  | type => "type"
  | number => "number"
  | builtin => "builtin"
  | comment => "comment"
  | docComment => "doccomment"
  | operator => "operator"
  | title => "title"
  | unknown => "unknown"

/-- The group of a name. -/
def ofName? (s : String) : Option Group := all.find? (·.name == s)

/-- The groups of the classes all grammars share and of those the bundled grammars use. -/
def ofClasses : List (Class × Group) :=
  [(Class.keyword, keyword),
   (Class.builtIn, builtin),
   (Class.type, type),
   (Class.literal, special),
   (Class.operator, operator),
   (Class.number, number),
   (Class.string, string),
   (Class.comment, comment),
   (Class.macroName, builtin),
   (Class.title, title),
   (Class.unknown, unknown),
   (Class.escape, special),
   ("comment-todo", docComment),
   ("errorhandling", special),
   ("meta-event", special),
   ("function-call", title),
   ("multiline", string),
   ("symbol", special)]

/-- The group of a class, given the choices that come before the usual ones. -/
def ofClass (overrides : List (Class × Group)) (c : Class) : Group :=
  match overrides.lookup c with
  | some g => g
  | none => (ofClasses.lookup c).getD default

end Group

/-- The styles of groups. -/
structure ColorScheme where
  styles : List (Group × Style)
  deriving Repr

namespace ColorScheme

/-- The style of a group in an optional scheme. -/
def styleOf (scheme : Option ColorScheme) (g : Group) : Style :=
  match scheme with
  | none => Style.default
  | some s =>
    match s.styles.lookup g with
    | some style => style
    | none => (s.styles.lookup Group.default).getD Style.default

/-- The scheme that is used unless another one is asked for. -/
def standard : ColorScheme :=
  ⟨[(.default, ⟨"lightgray", "black"⟩),
    (.column, ⟨"darkgray", "black"⟩),
    (.comment, ⟨"gray", "black"⟩),
    (.docComment, ⟨"teal", "black"⟩),
    (.string, ⟨"olive", "black"⟩),
    (.keyword, ⟨"navy", "black"⟩),
    (.type, ⟨"purple", "black"⟩),
    (.number, ⟨"fuchsia", "black"⟩),
    (.builtin, ⟨"blue", "black"⟩),
    (.special, ⟨"fuchsia", "black"⟩),
    (.operator, ⟨"white", "black"⟩),
    (.title, ⟨"green", "black"⟩),
    (.unknown, ⟨"white", "maroon"⟩)]⟩

end ColorScheme

end CodeViewer
