import CodeViewer.Scan.Step

/-!
# Scanning a text

A scanner hands out the tokens of one text, one at a time, and stops at the end of the text or
at the first error. Modes that are still open at the end are closed without a word.
-/

namespace CodeViewer

/-- How far a scanner has come. -/
inductive ScanStatus where
  /-- Nothing was asked for yet. -/
  | ready
  | running
  /-- The scan is over, because of an error if there is one. -/
  | stopped (error : Option ScanError)
  deriving DecidableEq, Repr

/-- A scan in progress. -/
structure Scanner where
  grammar : CompiledGrammar
  source : Text.Source
  state : ScanState
  status : ScanStatus
  /-- The token the last call has handed out, if it has handed out one. -/
  token : Token

namespace Scanner

/-- A scanner at the start of a text. `maxDepth` limits the nesting of modes. -/
def ofText (g : CompiledGrammar) (maxDepth : Int) (text : ByteArray) : Scanner :=
  ⟨g, Text.Source.ofText text, ⟨ModeStack.ofGrammar g maxDepth, 0⟩, .ready, Token.none⟩

/-- The number of modes open above the top level. -/
def depth (s : Scanner) : Nat := s.state.stack.depth

/-- The error that stopped the scan, if one did. -/
def error? (s : Scanner) : Option ScanError :=
  match s.status with
  | .stopped e => e
  | _ => none

/-- End the scan. No token is current any more. -/
def stop (s : Scanner) (e : Option ScanError) : Scanner :=
  { s with status := .stopped e, token := Token.none }

/-- Step until a token is emitted or the scan is over. Cancellation is looked at before every
step, but only while text is left. A step that emits nothing closes a mode, so `fuel` need only
exceed the number of open modes. -/
def advance (cancelled : Bool) : (fuel : Nat) → Scanner → Option Token × Scanner
  | 0, s => (none, s.stop none)
  | fuel + 1, s =>
    if s.source.size ≤ s.state.pos then (none, s.stop none)
    else if cancelled then (none, s.stop (some .canceled))
    else
      match Scan.step s.grammar s.source s.state with
      | (.emitted token, state) =>
        (some token, { s with state := state, status := .running, token := token })
      | (.failed e, state) => (none, { s with state := state }.stop (some e))
      | (.silent, state) => advance cancelled fuel { s with state := state, status := .running }

/-- The next token. The first call looks for text that must not start the input. -/
def next (s : Scanner) (cancelled : Bool) : Option Token × Scanner :=
  match s.status with
  | .stopped _ => (none, s)
  | .running => advance cancelled (s.depth + 1) s
  | .ready =>
    match Scan.checkIllegal s.source s.state.stack.top s.state.pos with
    | .error e => (none, s.stop (some e))
    | .ok _ => advance cancelled (s.depth + 1) s

/-- Whether a scan that is cancelled after `limit` tokens is so after `count` of them. -/
def isCancelled (limit : Option Nat) (count : Nat) : Bool := limit.any (· ≤ count)

/-- Run a scanner to its end, `count` tokens having been produced. The answer holds the tokens,
each with the number of modes open after it. Every token consumes text, so `fuel` need only
exceed the number of characters left. -/
def drain (cancelAfter : Option Nat) :
    (fuel count : Nat) → (acc : Array (Token × Nat)) → Scanner → Array (Token × Nat) × Scanner
  | 0, _, acc, s => (acc, s)
  | fuel + 1, count, acc, s =>
    match s.next (isCancelled cancelAfter count) with
    | (none, s) => (acc, s)
    | (some token, s) => drain cancelAfter fuel (count + 1) (acc.push (token, s.depth)) s

/-- Run a scanner to its end, cancelling it once the given number of tokens was produced. -/
def run (s : Scanner) (cancelAfter : Option Nat) : Array (Token × Nat) × Scanner :=
  drain cancelAfter (s.source.size + 1) 0 #[] s

end Scanner

/-- All tokens of a text, and the error that cut the scan short, if one did. -/
def scan (g : CompiledGrammar) (maxDepth : Int) (text : ByteArray) :
    Array Token × Option ScanError :=
  let (tokens, s) := (Scanner.ofText g maxDepth text).run none
  (tokens.map (·.1), s.error?)

end CodeViewer
