/-!
# Errors in the text of a pattern
-/

namespace CodeViewer.Pattern

/-- Why the text of a pattern is refused. -/
inductive PatternError where
  | missingParenthesis
  | unexpectedParenthesis
  | unterminatedComment
  | unterminatedSet
  | subtractionNotLast
  | missingRepeatArgument
  | nestedRepeat
  | reversedRepeat
  | reversedRange (first last : Nat)
  | numberOutOfRange
  | invalidGroupName
  | groupNumberZero
  | unknownGrouping (text : String)
  | undefinedGroup (number : Nat)
  | undefinedCondition (number : Nat)
  | malformedCondition (number : Nat)
  | commentAsCondition
  | namedCondition
  | tooManyBranches
  | undefinedName (name : String)
  | malformedReference
  | shorthandInRange (letter : Char)
  | tooFewHexDigits
  | hexTooLarge
  | missingBrace
  | missingControl
  | unknownControl
  | unknownCategory (name : String)
  | incompleteCategory
  | unknownEscape (letter : Char)
  | escapeAtEnd
  deriving DecidableEq, Repr

/-- The character of a code point as a report shows it; U+FFFD for what is no character. -/
def shownCode (code : Nat) : Char :=
  if code.isValidChar then Char.ofNat code else Char.ofNat 0xfffd

/-- What is wrong with the pattern, in words. -/
def PatternError.reason : PatternError → String
  | .missingParenthesis => "missing closing )"
  | .unexpectedParenthesis => "unexpected )"
  | .unterminatedComment => "unterminated comment"
  | .unterminatedSet => "unterminated [] set"
  | .subtractionNotLast => "a subtraction must be the last element in a character class"
  | .missingRepeatArgument => "missing argument to repetition operator"
  | .nestedRepeat => "invalid nested repetition operator"
  | .reversedRepeat => "invalid repeat count"
  | .reversedRange first last =>
    "[" ++ (shownCode first).toString ++ "-" ++ (shownCode last).toString
      ++ "] range in reverse order"
  | .numberOutOfRange => "capture group number out of range"
  | .invalidGroupName =>
    "invalid group name: group names must begin with a word character and have a "
      ++ "matching terminator"
  | .groupNumberZero => "capture number cannot be zero"
  | .unknownGrouping text => "unrecognized grouping construct: (" ++ text
  | .undefinedGroup number => "reference to undefined group number " ++ toString number
  | .undefinedCondition number => "(?(" ++ toString number ++ ") ) reference to undefined group"
  | .malformedCondition number => "(?(" ++ toString number ++ ") ) malformed"
  | .commentAsCondition => "alternation conditions cannot be comments"
  | .namedCondition => "alternation conditions do not capture and cannot be named"
  | .tooManyBranches => "too many | in (?()|)"
  | .undefinedName name => "reference to undefined group name " ++ name
  | .malformedReference => "malformed \\k<...> named back reference"
  | .shorthandInRange letter =>
    "cannot include class \\" ++ toString letter.toNat ++ " in character range"
  | .tooFewHexDigits => "insufficient hexadecimal digits"
  | .hexTooLarge => "hex values may not be larger than 0x10FFFF"
  | .missingBrace => "missing closing \x7d"
  | .missingControl => "missing control character"
  | .unknownControl => "unrecognized control character"
  | .unknownCategory name => "unknown unicode category, script, or property '" ++ name ++ "'"
  | .incompleteCategory => "incomplete \\p\x7bX\x7d character escape"
  | .unknownEscape letter => "unrecognized escape sequence \\" ++ letter.toString
  | .escapeAtEnd => "illegal \\ at end of pattern"

/-- The report for a pattern whose whole text is `pattern`. -/
def PatternError.message (e : PatternError) (pattern : String) : String :=
  "error parsing regexp: " ++ e.reason ++ " in `" ++ pattern ++ "`"

end CodeViewer.Pattern
