import CodeViewer.Fault
import CodeViewer.Grammar.Basic
import CodeViewer.Pattern.Tape
import CodeViewer.Text.Quote

/-!
# Tokens and scan errors
-/

namespace CodeViewer

/-- A classified span of a text: the bytes from offset `start` up to `stop`. -/
structure Token where
  cls : Class
  start : Nat
  stop : Nat
  text : ByteArray

/-- The token of no span, which is current when a scan has ended. -/
def Token.none : Token := ⟨"", 0, 0, ByteArray.empty⟩

/-- Why a scan stops before the end of its text. -/
inductive ScanError where
  /-- Entering a mode would nest deeper than allowed. -/
  | tooDeep (limit : Nat) (offset : Int) (cls : Class)
  /-- The text at the start of a mode is one the mode must not start with. -/
  | illegalEntry (cls : Class) (offset : Nat) (text : String)
  /-- The top-level mode would be closed. -/
  | closedTopLevel
  | canceled
  /-- A search broke down at an unknown instruction. -/
  | badInstruction (offset : Nat)
  /-- A search or a match has left the text. No report is made of it: it ends whatever asked
  for the scan. -/
  | outOfText
  deriving DecidableEq, Repr

/-- The report of a scan error. -/
def ScanError.message : ScanError → String
  | .tooDeep limit offset cls =>
    "mode " ++ Text.quoteString cls ++ " at offset " ++ toString offset
      ++ " exceeds maximum depth " ++ toString limit
  | .illegalEntry cls offset text =>
    if cls == "" then "illegal " ++ Text.quoteString text ++ " at offset " ++ toString offset
    else
      "illegal " ++ Text.quoteString text ++ " entering mode " ++ Text.quoteString cls
        ++ " at offset " ++ toString offset
  | .closedTopLevel => "lexer invariant violated: pop of the top-level mode"
  | .canceled => "context canceled"
  | .badInstruction offset =>
    "matching at offset " ++ toString offset ++ ": unknown state in regex runner"
  | .outOfText => Fault.outOfRange.message

/-- The fault a scan error stands for, if it is not to be reported. -/
def ScanError.fault? : ScanError → Option Fault
  | .outOfText => some .outOfRange
  | _ => none

/-- The error of a search that breaks down at byte `offset`. -/
def ScanError.ofBreakdown (offset : Nat) : Pattern.Breakdown → ScanError
  | .outOfRange => .outOfText
  | .unknownInstruction => .badInstruction offset

end CodeViewer
