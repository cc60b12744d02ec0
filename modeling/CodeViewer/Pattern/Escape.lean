import CodeViewer.Text.Quote

/-!
# Patterns for literal text

`escape s` is the text of a pattern for the characters of `s`. Code points from 256 on that are
not printable are written with as many hexadecimal digits as they have, although a pattern
reads exactly four: such a text is refused, or stands for another one.
-/

namespace CodeViewer.Pattern

/-- The characters that mean something in a pattern. -/
def metacharacters : List Char := "\\.+*?()|[]\x7b\x7d^$# ".toList

/-- How a character is written in a pattern. -/
def escapeChar (c : Char) : List Char :=
  if Unicode.isPrintable c then
    if metacharacters.contains c then ['\\', c] else [c]
  else
    match c.toNat with
    | 0x07 => ['\\', 'a']
    | 0x0c => ['\\', 'f']
    | 0x0a => ['\\', 'n']
    | 0x0d => ['\\', 'r']
    | 0x09 => ['\\', 't']
    | 0x0b => ['\\', 'v']
    | n =>
      if n < 0x100 then '\\' :: 'x' :: Text.hexDigits 2 n
      else '\\' :: 'u' :: Nat.toDigits 16 n

/-- How a string is written in a pattern. -/
def escape (s : String) : String := String.ofList (s.toList.flatMap escapeChar)

end CodeViewer.Pattern
