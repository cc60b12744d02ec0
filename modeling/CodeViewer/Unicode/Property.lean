import CodeViewer.Unicode.Case
import CodeViewer.Unicode.Cell
import CodeViewer.Unicode.Digit
import CodeViewer.Unicode.Graphic
import CodeViewer.Unicode.Letter
import CodeViewer.Unicode.Mark

/-!
# Properties of characters

What the rest of the library asks of a character: its general category as far as patterns,
words and quoting need it, its case variants, and the number of terminal cells it fills.
ASCII characters are decided without a table.
-/

namespace CodeViewer.Unicode

/-- An ASCII letter. -/
def isAsciiLetter (n : Nat) : Bool := (0x41 ≤ n && n ≤ 0x5a) || (0x61 ≤ n && n ≤ 0x7a)

/-- An ASCII digit. -/
def isAsciiDigit (n : Nat) : Bool := 0x30 ≤ n && n ≤ 0x39

/-- A letter of any script. -/
def isLetter (c : Char) : Bool :=
  if c.toNat < 0x80 then isAsciiLetter c.toNat else letters.contains c.toNat

/-- An upper-case letter. -/
def isUpper (c : Char) : Bool :=
  if c.toNat < 0x80 then 0x41 ≤ c.toNat && c.toNat ≤ 0x5a else upperLetters.contains c.toNat

/-- A lower-case letter. -/
def isLower (c : Char) : Bool :=
  if c.toNat < 0x80 then 0x61 ≤ c.toNat && c.toNat ≤ 0x7a else lowerLetters.contains c.toNat

/-- A title-case letter: two letters in one character, the first in upper case. -/
def isTitle (c : Char) : Bool := titleLetters.contains c.toNat

/-- A decimal digit of any script. -/
def isDigit (c : Char) : Bool :=
  if c.toNat < 0x80 then isAsciiDigit c.toNat else decimalDigits.contains c.toNat

/-- A mark that takes no room of its own. -/
def isNonspacingMark (c : Char) : Bool := 0x80 ≤ c.toNat && nonspacingMarks.contains c.toNat

/-- A mark drawn around the character before it. -/
def isEnclosingMark (c : Char) : Bool := 0x80 ≤ c.toNat && enclosingMarks.contains c.toNat

/-- Punctuation that joins words; in ASCII only the low line. -/
def isConnector (c : Char) : Bool :=
  if c.toNat < 0x80 then c == '_' else connectors.contains c.toNat

/-- White space: the blanks, the line and paragraph separators and the controls that move
to another column or line. -/
def isSpace (c : Char) : Bool :=
  let n := c.toNat
  (0x09 ≤ n && n ≤ 0x0d) || n == 0x20 || n == 0x85 || n == 0xa0 || n == 0x1680
    || (0x2000 ≤ n && n ≤ 0x200a) || n == 0x2028 || n == 0x2029 || n == 0x202f
    || n == 0x205f || n == 0x3000

/-- A control character: C0, DEL or C1. -/
def isControl (c : Char) : Bool := c.toNat < 0x20 || (0x7f ≤ c.toNat && c.toNat ≤ 0x9f)

/-- A character that is printed as it is: a graphic character or the blank U+0020. -/
def isPrintable (c : Char) : Bool :=
  if c.toNat < 0x80 then 0x20 ≤ c.toNat && c.toNat < 0x7f else graphics.contains c.toNat

/-- A character that words are made of: letters, decimal digits, non-spacing marks,
connectors and the two joiners U+200C and U+200D. -/
def isWord (c : Char) : Bool :=
  isLetter c || isDigit c || isConnector c || isNonspacingMark c
    || c.toNat == 0x200c || c.toNat == 0x200d

/-- The lower-case form of a character. -/
def toLower (c : Char) : Char :=
  if c.toNat < 0x80 then (if isUpper c then Char.ofNat (c.toNat + 32) else c)
  else lowerCases.mapChar c

/-- The common representative of all case variants of a character. -/
def fold (c : Char) : Char :=
  if c.toNat < 0x80 then (if isUpper c then Char.ofNat (c.toNat + 32) else c)
  else foldCases.mapChar c

/-- Two texts that differ at most in the case of their letters. -/
def equalFold (s t : String) : Bool := s.toList.map fold == t.toList.map fold

/-- The number of terminal cells a character fills: none, one or two. -/
def cellWidth (c : Char) : Nat :=
  let n := c.toNat
  if n < 0x20 then 0
  else if n < 0x7f then 1
  else if invisibles.contains n || combining.contains n then 0
  else if wides.contains n then 2
  else 1

end CodeViewer.Unicode
