import CodeViewer.Grammar.Basic

/-!
# Rules that grammars of C-like languages share
-/

namespace CodeViewer.Block

/-- Runs of white space. -/
def whitespace : Rule := .mk { cls := Class.whitespace, pattern := "\\s+" } none

/-- A backslash and the character behind it. -/
def backslashEscape : Rule := .mk { cls := Class.escape, pattern := "\\\\[\\s\\S]" } none

/-- A string between two delimiters that may contain backslash escapes. -/
def delimitedString (delimiter : String) : Rule :=
  .mk
    { cls := Class.string, literal := delimiter, finish := delimiter, noInherit := true,
      absorbUnmatched := true }
    (some [backslashEscape])

/-- Strings in double quotes. -/
def quoteString : Rule := delimitedString "\""

/-- Strings in single quotes. -/
def aposString : Rule := delimitedString "'"

/-- Hexadecimal, decimal and floating point numbers. -/
def number : Rule :=
  .mk
    { cls := Class.number
      pattern := "-?(\\b0[xX][a-fA-F0-9]+|(\\b\\d+(\\.\\d*)?|\\.\\d+)([eE][-+]?\\d+)?)" }
    none

/-- Comments from a marker to the end of the line. -/
def lineComment (marker : String) : Rule :=
  .mk
    { cls := Class.comment, literal := marker, finish := "$", noInherit := true,
      absorbUnmatched := true }
    none

/-- A grammar of nothing but these rules. -/
def grammar (marker : String) : Grammar :=
  { name := "blocks", rules := [whitespace, lineComment marker, quoteString, aposString, number] }

end CodeViewer.Block
