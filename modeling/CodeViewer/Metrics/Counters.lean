import CodeViewer.Metrics.Failure

/-!
# Counters

The program counts, by grammar, the texts it scans, their tokens by class, and the scans that
fail by kind of failure.
-/

namespace CodeViewer

/-- How often each of some keys was counted. -/
structure Tally (κ : Type) where
  entries : List (κ × Nat)
  deriving Repr

namespace Tally

variable {κ : Type} [BEq κ]

/-- Nothing was counted. -/
def empty : Tally κ := ⟨[]⟩

/-- How often a key was counted. -/
def count (t : Tally κ) (key : κ) : Nat := (t.entries.lookup key).getD 0

/-- Count a key `n` times in a list of counts. -/
def addTo (key : κ) (n : Nat) : List (κ × Nat) → List (κ × Nat)
  | [] => [(key, n)]
  | (k, m) :: rest => if key == k then (k, m + n) :: rest else (k, m) :: addTo key n rest

/-- Count a key `n` times. -/
def add (t : Tally κ) (key : κ) (n : Nat) : Tally κ :=
  if n = 0 then t else ⟨addTo key n t.entries⟩

/-- Count a key once. -/
def increment (t : Tally κ) (key : κ) : Tally κ := t.add key 1

end Tally

/-- What the program has counted. -/
structure Counters where
  /-- Tokens, by class and grammar. -/
  tokens : Tally (Class × String)
  /-- Scans, by grammar. -/
  scans : Tally String
  /-- Failed scans, by grammar and kind of failure. -/
  scanErrors : Tally (String × String)
  deriving Repr

namespace Counters

/-- Nothing was counted. -/
def empty : Counters := ⟨Tally.empty, Tally.empty, Tally.empty⟩

/-- Count tokens of one class. -/
def addTokens (c : Counters) (grammar : String) (cls : Class) (n : Nat) : Counters :=
  { c with tokens := c.tokens.add (cls, grammar) n }

/-- Count tokens by their classes. -/
def countTokens (c : Counters) (grammar : String) (tokens : List Token) : Counters :=
  tokens.foldl (fun c t ↦ c.addTokens grammar t.cls 1) c

/-- Count a scan and its failure, if it failed. -/
def countScan (c : Counters) (grammar : String) (failure : Option Failure) : Counters :=
  let c := { c with scans := c.scans.increment grammar }
  match failure with
  | none => c
  | some f => { c with scanErrors := c.scanErrors.increment (grammar, f.kind.name) }

end Counters

end CodeViewer
