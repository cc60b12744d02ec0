import CodeViewer.Text.Utf8
import CodeViewer.Unicode.Property

/-!
# Quoted text

A text between double quotes in which everything that is not printed as it is stands as an
escape: the seven control characters with a letter of their own, backslash and quote, two
hexadecimal digits for other ASCII characters and stray bytes, four or eight for the rest.
-/

namespace CodeViewer.Text

/-- The last `width` hexadecimal digits of `n`, in lower case. -/
def hexDigits : (width n : Nat) → List Char
  | 0, _ => []
  | width + 1, n => hexDigits width (n / 16) ++ [Nat.digitChar (n % 16)]

/-- How a character is written between quotes. -/
def quoteChar (c : Char) : List Char :=
  if c == '"' || c == '\\' then ['\\', c]
  else if Unicode.isPrintable c then [c]
  else
    match c.toNat with
    | 0x07 => ['\\', 'a']
    | 0x08 => ['\\', 'b']
    | 0x0c => ['\\', 'f']
    | 0x0a => ['\\', 'n']
    | 0x0d => ['\\', 'r']
    | 0x09 => ['\\', 't']
    | 0x0b => ['\\', 'v']
    | n =>
      if n < 0x20 || n == 0x7f then '\\' :: 'x' :: hexDigits 2 n
      else if n < 0x10000 then '\\' :: 'u' :: hexDigits 4 n
      else '\\' :: 'U' :: hexDigits 8 n

/-- How a piece of a text is written between quotes. -/
def quotePiece : Piece → List Char
  | .char c => quoteChar c
  | .stray b => '\\' :: 'x' :: hexDigits 2 b.toNat

/-- A text in quotes. -/
def quote (text : ByteArray) : String :=
  String.ofList ('"' :: (pieces text).toList.flatMap (fun p ↦ quotePiece p.2) ++ ['"'])

/-- A string in quotes. -/
def quoteString (s : String) : String :=
  String.ofList ('"' :: s.toList.flatMap quoteChar ++ ['"'])

end CodeViewer.Text
