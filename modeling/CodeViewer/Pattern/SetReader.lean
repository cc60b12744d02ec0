import CodeViewer.Pattern.Error
import CodeViewer.Pattern.LowerCase

/-!
# Reading numbers, escapes and sets

The parts of a pattern's text that do not depend on its groups. Every reader is given the text
from where its part starts and answers with the rest of the text. The readers of escapes do so
also if the escape is refused: the rest is then what was not looked at.
-/

namespace CodeViewer.Pattern

/-! ## Numbers -/

/-- The value of a string of decimal digits. -/
def decimalValue (digits : List Char) : Nat :=
  digits.foldl (fun n d ↦ 10 * n + (d.toNat - '0'.toNat)) 0

/-- A decimal digit as numbers in patterns are written with. -/
def isNumeral (c : Char) : Bool := '0' ≤ c && c ≤ '9'

/-- A number, up to the largest a repetition or group may have. -/
def readNumber (text : List Char) : Except PatternError (Nat × List Char) :=
  let n := decimalValue (text.takeWhile isNumeral)
  if n ≤ 2147483647 then .ok (n, text.dropWhile isNumeral) else .error .numberOutOfRange

/-! ## Escapes -/

/-- The value of a hexadecimal digit. -/
def hexValue? (c : Char) : Option Nat :=
  if '0' ≤ c && c ≤ '9' then some (c.toNat - '0'.toNat)
  else if 'a' ≤ c && c ≤ 'f' then some (c.toNat - 'a'.toNat + 10)
  else if 'A' ≤ c && c ≤ 'F' then some (c.toNat - 'A'.toNat + 10)
  else none

/-- Exactly `width` hexadecimal digits, `value` being that of the digits before. -/
def readHexDigits : (width value : Nat) → List Char → Except PatternError Nat × List Char
  | 0, value, text => (.ok value, text)
  | _ + 1, _, [] => (.error .tooFewHexDigits, [])
  | width + 1, value, c :: rest =>
    match hexValue? c with
    | some d => readHexDigits width (16 * value + d) rest
    | none => (.error .tooFewHexDigits, rest)

/-- Exactly `width` hexadecimal digits. A text that is too short is not looked at. -/
def readHex (width : Nat) (text : List Char) : Except PatternError Nat × List Char :=
  if text.length < width then (.error .tooFewHexDigits, text) else readHexDigits width 0 text

/-- Hexadecimal digits up to a closing brace; `value` is that of the digits before, if there
are any. -/
def readBracedHex : (value : Option Nat) → List Char → Except PatternError Nat × List Char
  | _, [] => (.error .missingBrace, [])
  | value, c :: rest =>
    if c == '}' then
      match value with
      | some n => (.ok n, rest)
      | none => (.error .tooFewHexDigits, rest)
    else
      match hexValue? c with
      | none => (.error .missingBrace, rest)
      | some d =>
        let n := 16 * value.getD 0 + d
        if maxCode < n then (.error .hexTooLarge, rest) else readBracedHex (some n) rest

/-- The control character of a letter or of a character next to the letters. -/
def readControl : List Char → Except PatternError Nat × List Char
  | [] => (.error .missingControl, [])
  | c :: rest =>
    let code := if 'a' ≤ c && c ≤ 'z' then c.toNat - 32 else c.toNat
    if 0x40 ≤ code && code < 0x60 then (.ok (code - 0x40), rest)
    else (.error .unknownControl, rest)

/-- An octal digit. -/
def isOctal (c : Char) : Bool := '0' ≤ c && c ≤ '7'

/-- The code point of a character escape, given what follows the backslash. Up to three octal
digits name a code point below 256; letters and digits without a meaning are refused, and any
other character stands for itself. -/
def readEscape : List Char → Except PatternError Nat × List Char
  | [] => (.error .escapeAtEnd, [])
  | c :: rest =>
    if isOctal c then
      let digits := ((c :: rest).take 3).takeWhile isOctal
      (.ok (digits.foldl (fun n d ↦ 8 * n + (d.toNat - '0'.toNat)) 0 % 256),
        (c :: rest).drop digits.length)
    else
      match c, rest with
      | 'x', '{' :: more => readBracedHex none more
      | 'x', _ => readHex 2 rest
      | 'u', _ => readHex 4 rest
      | 'a', _ => (.ok 0x07, rest)
      | 'b', _ => (.ok 0x08, rest)
      | 'e', _ => (.ok 0x1b, rest)
      | 'f', _ => (.ok 0x0c, rest)
      | 'n', _ => (.ok 0x0a, rest)
      | 'r', _ => (.ok 0x0d, rest)
      | 't', _ => (.ok 0x09, rest)
      | 'v', _ => (.ok 0x0b, rest)
      | 'c', _ => readControl rest
      | _, _ => if Unicode.isWord c then (.error (.unknownEscape c), rest) else (.ok c.toNat, rest)

/-- The category of a name. -/
def categoryOf (name : String) : Except PatternError Category :=
  match Category.ofName? name with
  | some cat => .ok cat
  | none => .error (.unknownCategory name)

/-- A category, given what follows the letter `p`: one letter, or a name in braces. -/
def readCategory : List Char → Except PatternError Category × List Char
  | [] => (.error .incompleteCategory, [])
  | '{' :: rest =>
    let isName (c : Char) : Bool := Unicode.isWord c || c == '-'
    if rest.length < 2 then (.error .incompleteCategory, '{' :: rest)
    else
      match rest.dropWhile isName with
      | '}' :: more => (categoryOf (String.ofList (rest.takeWhile isName)), more)
      | more => (.error .incompleteCategory, more.drop 1)
  | c :: rest => (categoryOf c.toString, rest)

/-! ## Sets -/

/-- The class of a shorthand letter, and whether it is negated. -/
def shorthand? : Char → Option (CharClass × Bool)
  | 'd' => some (.category .decimalDigit, false)
  | 'D' => some (.category .decimalDigit, true)
  | 's' => some (.space, false)
  | 'S' => some (.space, true)
  | 'w' => some (.word, false)
  | 'W' => some (.word, true)
  | _ => none

/-- A set is negated by a circumflex behind its opening bracket. -/
def readNegation : List Char → Bool × List Char
  | '^' :: rest => (true, rest)
  | text => (false, text)

/-- What follows a name between colons, such as `:digit:]`, given what follows the bracket in
front of it. Such a name is passed over. -/
def afterColonName (text : List Char) : List Char :=
  match text with
  | ':' :: more =>
    let name : List Char :=
      match more with
      | '^' :: c :: rest => c :: rest
      | _ => more
    match name.dropWhile Unicode.isWord with
    | ':' :: ']' :: rest => rest
    | _ => text
  | _ => text

/-- Read the items of a set up to its closing bracket. `opening` holds at the first item, where
a bracket stands for itself; `start` is the first code point of a range whose end is still to
be read; `read` holds the items read so far and `minus` what is taken away from them. -/
def readItems (folded : Bool) : (fuel : Nat) → List Char → (opening : Bool) →
    (start : Option Nat) → (read : Layer) → (minus : List Layer) →
    Except PatternError (CharSet × List Char)
  | 0, _, _, _, _, _ => .error .unterminatedSet
  | _ + 1, [], _, _, _, _ => .error .unterminatedSet
  | fuel + 1, c :: rest, opening, start, read, minus =>
    let subtract (read : Layer) (rest : List Char) :
        Except PatternError (CharSet × List Char) :=
      let (negated, body) := readNegation rest
      match readItems folded fuel body true none (Layer.empty negated) [] with
      | .error e => .error e
      | .ok (taken, after) =>
        if after.head?.any (· != ']') then .error .subtractionNotLast
        else readItems folded fuel after false none read (taken.base :: taken.minus)
    let single (code : Nat) (escaped : Bool) (rest : List Char) :
        Except PatternError (CharSet × List Char) :=
      match rest with
      | '[' :: more =>
        if code == '-'.toNat && !escaped && !opening then subtract read more
        else readItems folded fuel rest false none (read.addCode code) minus
      | _ => readItems folded fuel rest false none (read.addCode code) minus
    let place (code : Nat) (escaped : Bool) (rest : List Char) :
        Except PatternError (CharSet × List Char) :=
      match start with
      | some first =>
        if code == '['.toNat && !escaped then subtract (read.addCode first) rest
        else if code < first then .error (.reversedRange first code)
        else readItems folded fuel rest false none (read.addRange first code) minus
      | none =>
        match rest with
        | '-' :: next :: more =>
          if next == ']' then single code escaped rest
          else readItems folded fuel (next :: more) false (some code) read minus
        | _ => single code escaped rest
    match c, rest with
    | '\\', letter :: more =>
      match shorthand? letter with
      | some (cls, negated) =>
        if start.isSome then .error (.shorthandInRange letter)
        else readItems folded fuel more false start (read.addClass cls negated) minus
      | none =>
        if letter == 'p' || letter == 'P' then
          if start.isSome then .error (.shorthandInRange letter)
          else
            match readCategory more with
            | (.error e, _) => .error e
            | (.ok cat, more) =>
              readItems folded fuel more false start
                (read.addCategory folded cat (letter == 'P')) minus
        else if letter == '-' then
          readItems folded fuel more false start (read.addCode '-'.toNat) minus
        else
          match readEscape (letter :: more) with
          | (.error e, _) => .error e
          | (.ok code, more) => place code true more
    | ']', _ =>
      if opening then place c.toNat false rest
      else .ok (⟨if folded then read.lower else read, minus⟩, rest)
    | '[', _ => place c.toNat false (if start.isNone then afterColonName rest else rest)
    | _, _ => place c.toNat false rest

/-- Read a set, given what follows its opening bracket. Where case is ignored its lower-case
forms are added. -/
def readSet (folded : Bool) (text : List Char) : Except PatternError (CharSet × List Char) :=
  let (negated, body) := readNegation text
  readItems folded (body.length + 1) body true none (Layer.empty negated) []

end CodeViewer.Pattern
