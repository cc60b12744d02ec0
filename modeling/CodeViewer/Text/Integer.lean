import CodeViewer.Unicode.Property

/-!
# Integers in words

Signed integers of 64 bits as they are typed, in decimal or in the notations of a command line:
with a mark for the base and with low lines between digits.
-/

namespace CodeViewer.Text

/-- Why a text is no integer. -/
inductive IntegerError where
  | malformed
  | outOfRange
  deriving DecidableEq, Repr

/-- The value of a letter or digit as a digit. -/
def digitValue? (c : Char) : Option Nat :=
  if '0' ≤ c && c ≤ '9' then some (c.toNat - '0'.toNat)
  else if 'a' ≤ c && c ≤ 'z' then some (c.toNat - 'a'.toNat + 10)
  else if 'A' ≤ c && c ≤ 'Z' then some (c.toNat - 'A'.toNat + 10)
  else none

/-- The value of digits that follow a number of value `n`. A value of more than 64 bits is
reported where it arises, even if the text goes on with something that is no digit. -/
def digitsValue (base : Nat) : (n : Nat) → List Char → Except IntegerError Nat
  | n, [] => .ok n
  | n, c :: rest =>
    match digitValue? c with
    | none => .error .malformed
    | some d =>
      if base ≤ d then .error .malformed
      else if 0x10000000000000000 ≤ base * n + d then .error .outOfRange
      else digitsValue base (base * n + d) rest

/-- A sign and the rest. -/
def splitSign : List Char → Bool × List Char
  | '+' :: rest => (false, rest)
  | '-' :: rest => (true, rest)
  | text => (false, text)

/-- A value with a sign, if 64 bits hold it. -/
def signed (negative : Bool) (n : Nat) : Except IntegerError Int :=
  if negative then (if n ≤ 0x8000000000000000 then .ok (-(n : Int)) else .error .outOfRange)
  else (if n < 0x8000000000000000 then .ok n else .error .outOfRange)

/-- A decimal integer. -/
def parseDecimal (text : List Char) : Except IntegerError Int := do
  let (negative, digits) := splitSign text
  if digits.isEmpty then
    throw .malformed
  else
    let n ← digitsValue 10 0 digits
    signed negative n

/-- The base that the first characters of a number ask for, and its digits: `0x`, `0o` and `0b`
in either case, or a mere zero for octal numbers. -/
def splitBase : List Char → Nat × List Char
  | '0' :: c :: d :: rest =>
    if c == 'x' || c == 'X' then (16, d :: rest)
    else if c == 'o' || c == 'O' then (8, d :: rest)
    else if c == 'b' || c == 'B' then (2, d :: rest)
    else (8, c :: d :: rest)
  | '0' :: rest => (8, rest)
  | text => (10, text)

/-- Whether low lines stand only behind a digit and before one; `afterDigit` says whether the
first of the characters follows a digit, or the mark of a base, which counts as one. -/
def separated : (afterDigit : Bool) → List Char → Bool
  | _, [] => true
  | afterDigit, c :: rest =>
    if c == '_' then afterDigit && !rest.isEmpty && separated false rest
    else separated true rest

/-- An integer in any base. -/
def parseInteger (text : List Char) : Except IntegerError Int := do
  let (negative, number) := splitSign text
  if number.isEmpty then
    throw .malformed
  else
    let (base, digits) := splitBase number
    let n ← digitsValue base 0 (digits.filter (· != '_'))
    if separated (base != 10) digits then
      signed negative n
    else
      throw .malformed

/-- A text without the white space around it. -/
def trimSpace (text : List Char) : List Char :=
  ((text.dropWhile Unicode.isSpace).reverse.dropWhile Unicode.isSpace).reverse

end CodeViewer.Text
