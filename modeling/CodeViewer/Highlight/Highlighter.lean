import CodeViewer.Bisect
import CodeViewer.Buffer.Basic
import CodeViewer.Grammar.Registry
import CodeViewer.Highlight.Group
import CodeViewer.Scan.Scanner

/-!
# Highlighting

A highlighter scans a whole buffer and keeps the tokens for lookups by offset and, line by
line, the spans that are drawn in another style than plain text.
-/

namespace CodeViewer

/-- A language: a grammar and choices of groups that come before the usual ones. -/
structure Language where
  name : String
  filetypes : List String
  grammar : CompiledGrammar
  groups : List (Class × Group)

/-- The language of a grammar. -/
def Language.ofGrammar (g : CompiledGrammar) : Language := ⟨g.name, g.filetypes, g, []⟩

/-- The group a class is drawn as in a language, or in none. -/
def Language.groupOf (language : Option Language) (c : Class) : Group :=
  match language with
  | some l => Group.ofClass l.groups c
  | none => Group.ofClass [] c

/-- The part of a token that lies on one line: the columns from `first` to `last`, both
included. -/
structure Match where
  first : Nat
  last : Nat
  group : Group
  cls : Class
  deriving DecidableEq, Repr

/-- A buffer and what scanning it has brought. -/
structure Highlighter where
  buffer : Buffer
  language : Option Language
  scheme : Option ColorScheme
  maxDepth : Int
  /-- Whether scanned tokens are recorded in `observed`. -/
  observing : Bool
  /-- The tokens of all scans that were observed. -/
  observed : Array Token
  lineMatches : Array (Array Match)
  tokens : Array Token
  error : Option ScanError
  /-- Whether the above belongs to the last scan and none is asked for since. -/
  valid : Bool

namespace Highlighter

/-- A highlighter that has not scanned its buffer yet. -/
def ofBuffer (b : Buffer) (language : Option Language) (scheme : Option ColorScheme) :
    Highlighter :=
  ⟨b, language, scheme, 0, false, #[], #[], #[], none, false⟩

/-- The line and column reached behind a text that starts at the given ones. -/
def advance (text : ByteArray) (place : Nat × Nat) : Nat × Nat :=
  (Text.chars text).foldl Buffer.advancePosition place

/-- Add a match to a line, unless it is empty or the line is not there. -/
def addMatch (lines : Array (Array Match)) (line first stop : Nat) (g : Group) (c : Class) :
    Array (Array Match) :=
  if stop ≤ first then lines
  else lines.modify line (·.push ⟨first, stop - 1, g, c⟩)

/-- Add the matches of the characters of a token, which are still to come from column `col` of
a line; the part on this line starts at column `first`. -/
def addChars (g : Group) (c : Class) : (lines : Array (Array Match)) → (line first col : Nat) →
    List Char → Array (Array Match)
  | lines, line, first, col, [] => addMatch lines line first col g c
  | lines, line, first, col, ch :: rest =>
    if ch == '\n' then addChars g c (addMatch lines line first col g c) (line + 1) 0 0 rest
    else addChars g c lines line first (col + 1) rest

/-- Add the matches of a token that starts at a line and column. Nothing is added for text that
is drawn plainly. -/
def addToken (language : Option Language) (lines : Array (Array Match)) (t : Token)
    (place : Nat × Nat) : Array (Array Match) :=
  let g := Language.groupOf language t.cls
  if g = Group.default then lines
  else addChars g t.cls lines place.1 place.2 place.2 (Text.chars t.text).toList

/-- Add the matches of tokens, the first of which starts at or behind offset `pos`, where the
given line and column are reached. -/
def addTokens (language : Option Language) (source : ByteArray) :
    (lines : Array (Array Match)) → (pos : Nat) → (place : Nat × Nat) → List Token →
    Array (Array Match)
  | lines, _, _, [] => lines
  | lines, pos, place, t :: ts =>
    let place := advance (source.extract pos t.start) place
    addTokens language source (addToken language lines t place) t.stop (advance t.text place) ts

/-- Scan the whole buffer. If the scan fails, the tokens before the error are kept. A fault of
the scan is not remembered. -/
def update (h : Highlighter) : Highlighter × Option Fault :=
  let noMatches : Array (Array Match) := Array.replicate h.buffer.lines #[]
  match h.language with
  | none => ({ h with lineMatches := noMatches, tokens := #[], error := none, valid := true }, none)
  | some l =>
    let source := h.buffer.bytes
    let (tokens, error) := scan l.grammar h.maxDepth source
    let fault? := error.bind ScanError.fault?
    ({ h with
      lineMatches := addTokens h.language source noMatches 0 (0, 0) tokens.toList
      tokens := tokens
      error := if fault?.isSome then none else error
      valid := true
      observed := if h.observing then h.observed ++ tokens else h.observed }, fault?)

/-- Ask for another scan. -/
def invalidate (h : Highlighter) : Highlighter := { h with valid := false }

/-- Scan the buffer if that was not done yet or another scan is asked for. -/
def updateInvalidated (h : Highlighter) : Highlighter × Option Fault :=
  if h.valid then (h, none) else h.update

/-- The matches of a line, by ascending columns. -/
def matchesOf (h : Highlighter) (line : Int) : Array Match :=
  if line < 0 then #[] else (h.lineMatches[line.toNat]?).getD #[]

/-- The match that covers a line and column. -/
def matchAt? (h : Highlighter) (line col : Int) : Option Match :=
  (bisectFind? (h.matchesOf line) (fun m ↦ col ≤ m.last)).filter (fun m ↦ m.first ≤ col)

/-- The token that holds a byte offset. -/
def tokenAt? (h : Highlighter) (pos : Int) : Option Token :=
  (bisectFind? h.tokens (fun t ↦ pos < t.stop)).filter (fun t ↦ t.start ≤ pos)

/-- The style of a match. -/
def styleOf (h : Highlighter) (m : Match) : Style := ColorScheme.styleOf h.scheme m.group

end Highlighter

end CodeViewer
