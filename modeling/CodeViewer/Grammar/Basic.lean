/-!
# Grammars

A grammar describes the lexical rules of a language as plain data. Nothing is checked here:
`compile` does that and turns the texts of patterns into patterns.

Searches are modelled without a time limit. The match timeout that a grammar may set for the
searches of its patterns is left out, and with it the error of a search that takes too long.
-/

namespace CodeViewer

/-- The classification of a span of text. Grammars may use any label; the ones below are those
the scanner itself produces or the bundled grammars share. -/
abbrev Class := String

namespace Class

/-- Reserved words. -/
def keyword : Class := "keyword"

/-- Functions that belong to the language. -/
def builtIn : Class := "built_in"

/-- Names of types. -/
def type : Class := "type"

/-- Words that stand for values. -/
def literal : Class := "literal"

/-- Operators and the like. -/
def operator : Class := "operator"

/-- Names that no category lists. -/
def identifier : Class := "identifier"

/-- Numbers. -/
def number : Class := "number"

/-- Texts in quotes. -/
def string : Class := "string"

/-- Comments. -/
def comment : Class := "comment"

/-- Names of macros. -/
def macroName : Class := "macro"

/-- Names that are declared. -/
def title : Class := "title"

/-- Also given to delimiters that do not count as part of the mode they close. -/
def punctuation : Class := "punctuation"

/-- Blanks, tabs and line ends. -/
def whitespace : Class := "whitespace"

/-- A single character that nothing matches. -/
def unknown : Class := "unknown"

/-- Backslash escapes inside strings. -/
def escape : Class := "escape"

end Class

/-- The identifiers of a grammar that names no pattern of its own for them. -/
def defaultNamePattern : String := "[A-Za-z_][A-Za-z0-9_]*"

/-- Literal words that share one classification. -/
structure Category where
  cls : Class
  words : List String
  deriving DecidableEq, Repr

/-- The attributes of a rule, apart from the rules it contains. An empty string means that the
attribute is not set; for the keywords an empty list counts as set. -/
structure RuleAttributes where
  cls : Class
  /-- The class of the text that opens a mode, if it differs from that of the mode. -/
  beginClass : Class := ""
  pattern : String := ""
  literal : String := ""
  keywords : Option (List String) := none
  /-- The pattern that closes the mode. -/
  finish : String := ""
  /-- The mode closes where an enclosing mode does. -/
  endsWithParent : Bool := false
  /-- The closing text is not classified as part of the mode. -/
  excludeEnd : Bool := false
  /-- The closing text is left to the enclosing mode. -/
  returnEnd : Bool := false
  /-- Closing the mode, or matching the rule, closes the enclosing mode too. -/
  endsParent : Bool := false
  /-- The rules of the enclosing mode do not apply inside the mode. -/
  noInherit : Bool := false
  /-- Word categories and identifiers apply inside the mode. -/
  useCategories : Bool := false
  /-- A pattern for text the mode must not start with. -/
  illegal : String := ""
  /-- Text that nothing matches gets the class of the mode. -/
  absorbUnmatched : Bool := false
  deriving DecidableEq, Repr, Inhabited

/-- A rule classifies the text it matches. With contained rules (even an empty list of them),
a closing pattern or `endsWithParent` it opens a mode. -/
inductive Rule where
  | mk (attributes : RuleAttributes) (contains : Option (List Rule))
  deriving Repr, Inhabited

/-- The attributes of a rule. -/
def Rule.attributes : Rule → RuleAttributes
  | .mk attributes _ => attributes

/-- The rules a rule contains, if it names any list of them. -/
def Rule.contains : Rule → Option (List Rule)
  | .mk _ contains => contains

/-- Whether the rule opens a mode. -/
def Rule.opensMode (r : Rule) : Bool :=
  r.contains.isSome || r.attributes.finish != "" || r.attributes.endsWithParent

/-- A grammar. -/
structure Grammar where
  name : String
  aliases : List String := []
  /-- File name patterns such as `*.zig`. -/
  filetypes : List String := []
  categories : List Category := []
  rules : List Rule := []
  /-- A pattern for text that no input may start with. -/
  illegal : String := ""
  /-- The pattern of identifiers; empty for the default one. -/
  namePattern : String := ""
  deriving Repr

end CodeViewer
