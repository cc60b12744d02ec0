import CodeViewer.Grammar.Error
import CodeViewer.Scan.Token

/-!
# Kinds of failures

A failed scan is counted by the kind of its error. What a failure wraps decides its kind.
-/

namespace CodeViewer

/-- What can end a scan too early. -/
inductive Failure where
  | scan (error : ScanError)
  | grammar (error : InvalidGrammar)
  /-- The time for the scan is up. -/
  | deadline
  /-- Anything else, such as a pattern that cannot be matched. -/
  | other (message : String)
  /-- A failure with an explanation in front. -/
  | wrapped (explanation : String) (inner : Failure)
  deriving Repr

/-- The kinds failures are counted by. -/
inductive FailureKind where
  | depth
  | illegal
  | invariant
  | grammar
  | canceled
  /-- The kind of all failures that have no other. -/
  | matching
  deriving DecidableEq, Repr

/-- The name of a kind. -/
def FailureKind.name : FailureKind → String
  | .depth => "depth"
  | .illegal => "illegal"
  | .invariant => "invariant"
  | .grammar => "grammar"
  | .canceled => "canceled"
  | .matching => "match"

/-- The kind of a scan error. -/
def ScanError.kind : ScanError → FailureKind
  | .tooDeep .. => .depth
  | .illegalEntry .. => .illegal
  | .closedTopLevel => .invariant
  | .canceled => .canceled
  | .badInstruction _ => .matching
  | .outOfText => .matching

/-- The kind of a failure. -/
def Failure.kind : Failure → FailureKind
  | .scan e => e.kind
  | .grammar _ => .grammar
  | .deadline => .canceled
  | .other _ => .matching
  | .wrapped _ inner => inner.kind

end CodeViewer
