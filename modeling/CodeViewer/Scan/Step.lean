import CodeViewer.Scan.Classify
import CodeViewer.Scan.ModeStack
import CodeViewer.Text.Utf8

/-!
# One step of a scan

A step looks at the place the scan has reached. If the innermost mode ends there, or has to end
because a mode around it does, the mode is closed; otherwise the best candidate among the rules
that apply is taken; if there is none, the character is unknown, or absorbed by the mode.
-/

namespace CodeViewer

/-- Where a scan is: the modes it is in and the index of the next character. -/
structure ScanState where
  stack : ModeStack
  pos : Nat
  deriving Repr

/-- What a step comes to. -/
inductive Outcome where
  | emitted (token : Token)
  /-- Modes were closed and nothing was consumed. -/
  | silent
  | failed (error : ScanError)

namespace Scan

open Text (Source)

/-- The length of the match of a pattern at `pos`. -/
def lengthAt? (src : Source) (p : Pattern) (pos : Nat) : Except ScanError (Option Nat) :=
  (p.matchLength? src.chars pos).mapError (.ofBreakdown (src.offset pos))

/-- The length of the match of an optional pattern at `pos`. -/
def optionalAt? (src : Source) (p : Option Pattern) (pos : Nat) :
    Except ScanError (Option Nat) :=
  match p with
  | none => .ok none
  | some p => lengthAt? src p pos

/-- The token of the characters from index `start` up to `stop`. -/
def token (src : Source) (cls : Class) (start stop : Nat) : Token :=
  ⟨cls, src.offset start, src.offset stop, src.slice start stop⟩

/-- Emit the token of the characters from index `start` up to `stop`, which must be there. -/
def emit (src : Source) (cls : Class) (start stop : Nat) : Outcome :=
  if src.size < stop then .failed .outOfText else .emitted (token src cls start stop)

/-- The characters from index `start` up to `stop`. -/
def excerpt (src : Source) (start stop : Nat) : Except ScanError String :=
  match src.excerpt? start stop with
  | some text => .ok text
  | none => .error .outOfText

/-- Fail if the text at `pos`, where a mode is entered, is illegal for it. -/
def checkIllegal (src : Source) (m : Mode) (pos : Nat) : Except ScanError Unit := do
  match ← optionalAt? src m.spec.illegal pos with
  | none => return ()
  | some n => throw (.illegalEntry m.spec.cls (src.offset pos) (← excerpt src pos (pos + n)))

/-- Whether a mode that ends with the modes around it has to end at `pos`: one of them ends
there, and all modes up to it end with the mode around them. -/
def parentEnds (src : Source) (pos : Nat) : (parents : List Mode) → Except ScanError Bool
  | [] => .ok false
  | p :: ps => do
    if (← optionalAt? src p.spec.finish pos).isSome then return true
    else if p.spec.endsWithParent then parentEnds src pos ps
    else return false

/-! ## Candidates -/

/-- A match that may be taken. Words of categories and identifiers come from no rule. -/
structure Candidate where
  rule : Option CompiledRule
  cls : Class
  length : Nat
  /-- Lower ranks win between candidates of equal length. -/
  rank : Nat
  deriving Repr

/-- The better of a candidate and the best one so far, which wins a full tie. -/
def better (best : Option Candidate) (c : Candidate) : Option Candidate :=
  match best with
  | none => some c
  | some b => if b.length < c.length || (c.length == b.length && c.rank < b.rank) then some c
    else some b

/-- The candidate of a rule at `pos`. Empty matches do not count. -/
def ruleCandidate? (g : CompiledGrammar) (src : Source) (pos : Nat) (r : CompiledRule) :
    Except ScanError (Option Candidate) := do
  match ← lengthAt? src r.head.start pos with
  | none => return none
  | some 0 => return none
  | some n =>
    return some ⟨some r, r.head.cls, n,
      if r.head.literal then g.rank r.head.cls else g.categories.length + 1⟩

/-- The best candidate among rules. Of the rules that begin with a pattern only the first that
matches takes part; `patternSeen` says that it has been found. -/
def bestRule (g : CompiledGrammar) (src : Source) (pos : Nat) :
    (patternSeen : Bool) → (best : Option Candidate) → List CompiledRule →
    Except ScanError (Option Candidate)
  | _, best, [] => .ok best
  | patternSeen, best, r :: rs =>
    if !r.head.literal && patternSeen then bestRule g src pos patternSeen best rs
    else do
      match ← ruleCandidate? g src pos r with
      | none => bestRule g src pos patternSeen best rs
      | some c => bestRule g src pos (patternSeen || !r.head.literal) (better best c) rs

/-- The best candidate once the word categories, from the given index on, have taken part. -/
def bestCategory (src : Source) (pos : Nat) :
    (index : Nat) → (best : Option Candidate) → List CompiledCategory →
    Except ScanError (Option Candidate)
  | _, best, [] => .ok best
  | index, best, c :: cs => do
    match ← lengthAt? src c.pattern pos with
    | none => bestCategory src pos (index + 1) best cs
    | some 0 => bestCategory src pos (index + 1) best cs
    | some n => bestCategory src pos (index + 1) (better best ⟨none, c.cls, n, index⟩) cs

/-- An identifier wins if it is longer than the best candidate so far. -/
def bestName (g : CompiledGrammar) (src : Source) (pos : Nat) (best : Option Candidate) :
    Except ScanError (Option Candidate) := do
  match ← lengthAt? src g.namePattern pos with
  | none => return best
  | some n =>
    return if 0 < n && best.all (·.length < n) then some ⟨none, Class.identifier, n, 0⟩ else best

/-- A word is classified anew by the categories that list it. -/
def reclassify (g : CompiledGrammar) (src : Source) (pos : Nat) (c : Candidate) :
    Except ScanError Candidate := do
  if c.rule.isSome then return c
  else return { c with cls := ← g.classify (← excerpt src pos (pos + c.length)) c.cls }

/-- The match that is taken at `pos` in a mode. Literals, keywords and word categories compete
by length; categories rank in their order, a literal ranks with the category of its class or
behind all of them, and patterns come last. -/
def candidate? (g : CompiledGrammar) (src : Source) (m : Mode) (pos : Nat) :
    Except ScanError (Option Candidate) := do
  let best ← bestRule g src pos false none m.visible
  if !m.categories then return best
  else
    match ← bestName g src pos (← bestCategory src pos 0 best g.categories) with
    | none => return none
    | some c => return some (← reclassify g src pos c)

/-! ## Text that nothing matches -/

/-- A control character other than white space, or a byte that starts no character. -/
def isStray (c : Char) : Bool :=
  c == Text.replacement || (Unicode.isControl c && !Unicode.isSpace c)

/-- Whether the character at an index is stray. -/
def strayAt (src : Source) (pos : Nat) : Bool := (src.chars[pos]?).any isStray

/-- Whether anything happens at `pos` in a mode with the given modes around it: the mode ends
or a candidate is taken. -/
def happensAt (g : CompiledGrammar) (src : Source) (m : Mode) (parents : List Mode)
    (pos : Nat) : Except ScanError Bool := do
  if (← optionalAt? src m.spec.finish pos).isSome then return true
  let ended ← if m.spec.endsWithParent then parentEnds src pos parents else pure false
  if ended then return true else return (← candidate? g src m pos).isSome

/-- The end of the text a mode absorbs: the next index from `pos` on at which the text ends,
a stray character stands or something happens. -/
def absorbedEnd (g : CompiledGrammar) (src : Source) (m : Mode) (parents : List Mode) :
    (fuel pos : Nat) → Except ScanError Nat
  | 0, pos => .ok pos
  | fuel + 1, pos => do
    if pos < src.size && !strayAt src pos then
      if ← happensAt g src m parents pos then return pos
      else absorbedEnd g src m parents fuel (pos + 1)
    else return pos

/-- Consume text that nothing matches: one unknown character, or all that the mode absorbs. -/
def unmatched (g : CompiledGrammar) (src : Source) (s : ScanState) (m : Mode)
    (parents : List Mode) : Outcome × ScanState :=
  if !m.spec.absorb || strayAt src s.pos then
    (emit src Class.unknown s.pos (s.pos + 1), { s with pos := s.pos + 1 })
  else
    match absorbedEnd g src m parents (src.size - (s.pos + 1)) (s.pos + 1) with
    | .error e => (.failed e, s)
    | .ok stop => (emit src m.spec.cls s.pos stop, { s with pos := stop })

/-! ## The step -/

/-- Close the innermost mode `m`, whose end matched `n` characters, and the mode around it if
the mode says so. -/
def closeMode (src : Source) (s : ScanState) (m : Mode) (n : Nat) : Outcome × ScanState :=
  match s.stack.pop with
  | .error e => (.failed e, s)
  | .ok popped =>
    match (if m.spec.endsParent then popped.pop else .ok popped) with
    | .error e => (.failed e, { s with stack := popped })
    | .ok stack =>
      if n = 0 || m.spec.returnEnd then (.silent, { s with stack := stack })
      else
        let cls := if m.spec.excludeEnd then Class.punctuation else m.spec.cls
        (emit src cls s.pos (s.pos + n), ⟨stack, s.pos + n⟩)

/-- Enter the mode of a rule whose match reaches up to `stop`. -/
def enter (src : Source) (s : ScanState) (r : CompiledRule) (stop : Nat) :
    Outcome × ScanState :=
  match s.stack.push r (src.offset s.pos) with
  | .error e => (.failed e, { s with pos := stop })
  | .ok stack =>
    if src.size < stop then (.failed .outOfText, ⟨stack, stop⟩)
    else
      match checkIllegal src stack.top stop with
      | .error e => (.failed e, ⟨stack, stop⟩)
      | .ok _ => (emit src r.head.beginClass s.pos stop, ⟨stack, stop⟩)

/-- Take a candidate: emit its token and open the mode of its rule, or close the innermost mode
if the rule says so. -/
def take (src : Source) (s : ScanState) (c : Candidate) : Outcome × ScanState :=
  let stop := s.pos + c.length
  match c.rule with
  | none => (emit src c.cls s.pos stop, { s with pos := stop })
  | some r =>
    match r.head.action with
    | .enter _ => enter src s r stop
    | .emit endsParent =>
      match (if endsParent then s.stack.pop else .ok s.stack) with
      | .error e =>
        (.failed (if src.size < stop then .outOfText else e), { s with pos := stop })
      | .ok stack => (emit src c.cls s.pos stop, ⟨stack, stop⟩)

/-- Take the best candidate in mode `m`, or consume text that nothing matches. -/
def advance (g : CompiledGrammar) (src : Source) (s : ScanState) (m : Mode)
    (parents : List Mode) : Outcome × ScanState :=
  match candidate? g src m s.pos with
  | .error e => (.failed e, s)
  | .ok (some c) => take src s c
  | .ok none => unmatched g src s m parents

/-- One step of a scan at a place where text is left. -/
def step (g : CompiledGrammar) (src : Source) (s : ScanState) : Outcome × ScanState :=
  match s.stack.opened with
  | [] => advance g src s s.stack.root []
  | m :: parents =>
    match optionalAt? src m.spec.finish s.pos with
    | .error e => (.failed e, s)
    | .ok (some n) => closeMode src s m n
    | .ok none =>
      match (if m.spec.endsWithParent then parentEnds src s.pos parents else .ok false) with
      | .error e => (.failed e, s)
      | .ok true => (.silent, { s with stack := { s.stack with opened := parents } })
      | .ok false => advance g src s m parents

end Scan

end CodeViewer
