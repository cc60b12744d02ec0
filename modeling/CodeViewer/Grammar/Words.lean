import CodeViewer.Pattern.Escape

/-!
# One pattern for a list of words

Longer words come first, so that a word is preferred to its beginnings. A word boundary is
asked for only beside a letter, digit or low line: words such as `<=` need none.
-/

namespace CodeViewer

/-- A character beside which a word has to end. -/
def needsBoundary (c : Char) : Bool := c == '_' || Unicode.isLetter c || Unicode.isDigit c

/-- Put a word in front of the first shorter one. -/
def insertByLength (word : String) : List String → List String
  | [] => [word]
  | w :: ws => if w.length < word.length then word :: w :: ws else w :: insertByLength word ws

/-- Words by descending length; words of one length keep their order. -/
def longestFirst (words : List String) : List String :=
  words.foldl (fun sorted word ↦ insertByLength word sorted) []

/-- The pattern of one word. -/
def wordPattern (word : String) : String :=
  let chars := word.toList
  let boundary (c? : Option Char) : String := if c?.any needsBoundary then "\\b" else ""
  boundary chars.head? ++ Pattern.escape word ++ boundary chars.getLast?

/-- The pattern of a list of words. -/
def wordsPattern (words : List String) : String :=
  "(?:" ++ String.intercalate "|" ((longestFirst words).map wordPattern) ++ ")"

end CodeViewer
