/-!
# Faults

A fault is a use of an operation outside its domain. It ends the operation that meets it; no
run of the viewer on at least one file is meant to meet any.
-/

namespace CodeViewer

/-- What an operation was asked for in vain. -/
inductive Fault where
  /-- An index or a range that lies outside the text it is applied to. -/
  | outOfRange
  /-- A negative number of blanks. -/
  | negativeCount
  /-- A line the buffer does not have. -/
  | missingLine
  /-- A key that neither the theme nor the default theme has. -/
  | missingStyle (key : String)
  /-- A clipboard that is neither the system's nor the program's own. -/
  | unknownClipboard
  deriving DecidableEq, Repr

/-- The report of a fault. -/
def Fault.message : Fault → String
  | .outOfRange => "runtime error"
  | .negativeCount => "strings: negative Repeat count"
  | .missingLine => "lineStart: not enough lines in buffer to reach position"
  | .missingStyle key => "key \"" ++ key ++ "\" not present in default theme"
  | .unknownClipboard => "How did execution get here?"

end CodeViewer
