import CodeViewer.Grammar.Basic
import CodeViewer.Pattern.Error
import CodeViewer.Text.Quote

/-!
# Why a grammar is refused
-/

namespace CodeViewer

/-- What is wrong with a grammar. -/
inductive GrammarFlaw where
  | noName
  | categoryWithoutClass
  | repeatedCategory (cls : Class)
  | noWords
  | emptyWord
  | repeatedWord (word : String)
  | badPattern (text : String) (cause : Pattern.PatternError)
  | ruleWithoutClass
  | notOneBegin
  | noParentToEnd
  | modeAttributesWithoutMode
  | notOneEnd
  | excludedAndReturnedEnd
  /-- Two rules that apply in one mode begin with the same pattern but differ in class. -/
  | contradiction (source : String) (earlier : Class) (earlierPath : String) (later : Class)
  deriving DecidableEq, Repr

/-- The flaw in words. -/
def GrammarFlaw.reason : GrammarFlaw → String
  | .noName => "grammar has no name"
  | .categoryWithoutClass => "category has no class"
  | .repeatedCategory cls => "category " ++ Text.quoteString cls ++ " is declared twice"
  | .noWords => "no words"
  | .emptyWord => "empty word"
  | .repeatedWord word => "word " ++ Text.quoteString word ++ " is listed twice"
  | .badPattern text _ => "bad pattern " ++ Text.quoteString text
  | .ruleWithoutClass => "rule has no class"
  | .notOneBegin => "rule needs exactly one of Pattern, Literal and Keywords"
  | .noParentToEnd => "a top-level rule has no parent to end"
  | .modeAttributesWithoutMode => "mode attributes on a rule that opens no mode"
  | .notOneEnd => "a mode needs exactly one end condition: End or EndsWithParent"
  | .excludedAndReturnedEnd => "ExcludeEnd and ReturnEnd cannot both be set"
  | .contradiction source earlier earlierPath later =>
    "pattern " ++ Text.quoteString source ++ " is classified both " ++ Text.quoteString earlier
      ++ " (" ++ earlierPath ++ ") and " ++ Text.quoteString later

/-- The report of the pattern a flaw goes back to, if it goes back to one. -/
def GrammarFlaw.cause? : GrammarFlaw → Option String
  | .badPattern text cause => some (cause.message text)
  | _ => none

/-- A grammar is refused: which one, where, and why. -/
structure InvalidGrammar where
  grammar : String
  /-- The place of the flaw, such as `rules[3].contains[0]`; empty for the grammar itself. -/
  path : String
  flaw : GrammarFlaw
  deriving DecidableEq, Repr

/-- The report of a refused grammar. -/
def InvalidGrammar.message (e : InvalidGrammar) : String :=
  "invalid grammar " ++ Text.quoteString e.grammar
    ++ (if e.path == "" then "" else " at " ++ e.path)
    ++ ": " ++ e.flaw.reason
    ++ (match e.flaw.cause? with
        | some cause => ": " ++ cause
        | none => "")

end CodeViewer
