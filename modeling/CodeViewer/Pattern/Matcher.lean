import CodeViewer.Pattern.LowerCase
import CodeViewer.Pattern.Node

/-!
# Matching along the tree

A tree is matched at a place of a text by trying its choices in order; `next` says what has to
match behind it, and the first choice for which it succeeds is taken. Looking back runs the
tree from right to left. A repetition ends after an iteration that consumes nothing. Only steady
trees are matched in this way; a program is run for all others.
-/

namespace CodeViewer.Pattern

/-- A text that is searched, and the index the search started from. -/
structure Subject where
  chars : Array Char
  origin : Nat

/-- How far a match has come: the index reached, and the spans of the groups matched so far,
latest first. -/
structure Progress where
  pos : Nat
  spans : List (Nat × Nat × Nat)
  deriving DecidableEq, Repr

/-- Whether the character at index `i` is a word character. -/
def Subject.isWordAt (t : Subject) (i : Nat) : Bool := (t.chars[i]?).any Unicode.isWord

/-- Whether the place before index `pos` is a word boundary. -/
def Subject.isBoundary (t : Subject) (pos : Nat) : Bool :=
  (0 < pos && t.isWordAt (pos - 1)) != t.isWordAt pos

/-- Whether an anchor holds at the place before index `pos`. -/
def Anchor.holds (t : Subject) (pos : Nat) : Anchor → Bool
  | .textStart => pos == 0
  | .textEnd => pos == t.chars.size
  | .lastLineEnd =>
    pos == t.chars.size || (pos + 1 == t.chars.size && t.chars[pos]? == some '\n')
  | .lineStart => pos == 0 || t.chars[pos - 1]? == some '\n'
  | .lineEnd => pos == t.chars.size || t.chars[pos]? == some '\n'
  | .origin => pos == t.origin
  | .wordBoundary => t.isBoundary pos
  | .notWordBoundary => !t.isBoundary pos

/-- The first of two results that is one; the second is asked for only if needed. -/
def orTry {α : Type} (first : Option α) (second : Unit → Option α) : Option α :=
  match first with
  | some a => some a
  | none => second ()

/-! ## Characters and texts -/

/-- The index behind one character that passes a test, to the right of `pos` or, looking back,
to its left. -/
def Subject.behindChar? (t : Subject) (back : Bool) (p : Char → Bool) (pos : Nat) : Option Nat :=
  if back then
    if pos = 0 then none else if (t.chars[pos - 1]?).any p then some (pos - 1) else none
  else if (t.chars[pos]?).any p then some (pos + 1) else none

/-- Whether the characters from an index on spell a text. -/
def Subject.spells (t : Subject) (folded : Bool) : List Nat → Nat → Bool
  | [], _ => true
  | code :: codes, i =>
    (t.chars[i]?).any (CharTest.accepts folded (.is code)) && t.spells folded codes (i + 1)

/-- The index behind a text at `pos` or, looking back, before it. -/
def Subject.behindText? (t : Subject) (back folded : Bool) (codes : List Nat) (pos : Nat) :
    Option Nat :=
  if back then
    if codes.length ≤ pos && t.spells folded codes (pos - codes.length) then
      some (pos - codes.length)
    else none
  else if t.spells folded codes pos then some (pos + codes.length) else none

/-- The code points of the characters from index `start` up to `stop`. -/
def Subject.codes (t : Subject) (folded : Bool) (start stop : Nat) : List Nat :=
  (t.chars.extract start stop).toList.map (fun c ↦ (foldCase folded c).toNat)

/-! ## Repetitions of one character -/

/-- The place `count` characters further on. -/
def moveBy (back : Bool) (pos count : Nat) : Nat := if back then pos - count else pos + count

/-- How many characters in a row pass a test, `count` having done so, up to `fuel` more. -/
def Subject.runLength (t : Subject) (back : Bool) (p : Char → Bool) :
    (fuel pos count : Nat) → Nat
  | 0, _, count => count
  | fuel + 1, pos, count =>
    match t.behindChar? back p pos with
    | none => count
    | some pos => t.runLength back p fuel pos (count + 1)

/-- Continue behind as many of `extra` characters beyond the first `least` as lets `next`
succeed. -/
def Progress.takeMost (s : Progress) (back : Bool) (next : Progress → Option Progress)
    (least : Nat) : (extra : Nat) → Option Progress
  | 0 => next { s with pos := moveBy back s.pos least }
  | extra + 1 =>
    match next { s with pos := moveBy back s.pos (least + extra + 1) } with
    | some r => some r
    | none => s.takeMost back next least extra

/-- Continue behind as few characters that pass a test as lets `next` succeed, at most `extra`
of them. -/
def Progress.takeFewest (t : Subject) (back : Bool) (p : Char → Bool)
    (next : Progress → Option Progress) : (extra : Nat) → Progress → Option Progress
  | 0, s => next s
  | extra + 1, s =>
    match next s with
    | some r => some r
    | none =>
      match t.behindChar? back p s.pos with
      | none => none
      | some pos => takeFewest t back p next extra { s with pos := pos }

/-- Match a repetition of one character. -/
def Progress.runChars (t : Subject) (back : Bool) (times : Repeat) (p : Char → Bool)
    (s : Progress) (next : Progress → Option Progress) : Option Progress :=
  let room := if back then s.pos else t.chars.size - s.pos
  if room < times.least then none
  else
    let most := min room times.mostCount
    if times.lazy then
      if t.runLength back p times.least s.pos 0 < times.least then none
      else
        takeFewest t back p next (most - times.least)
          { s with pos := moveBy back s.pos times.least }
    else
      let found := t.runLength back p most s.pos 0
      if found < times.least then none
      else s.takeMost back next times.least (found - times.least)

/-! ## Repetitions of anything -/

/-- What a repetition of something repeats, and what has to match behind it. -/
structure Loop where
  body : Progress → (Progress → Option Progress) → Option Progress
  next : Progress → Option Progress

/-- Go on with a greedy repetition, of which `most` more iterations are allowed: another one if
it can be, or else what follows. `from?` is where the last iteration started; if that is here,
there is no other. -/
def Loop.greedy (l : Loop) : (fuel : Nat) → (most : Option Nat) → (from? : Option Nat) →
    Progress → Option Progress
  | 0, _, _, _ => none
  | fuel + 1, most, from?, s =>
    if most = some 0 || from? = some s.pos then l.next s
    else orTry (l.body s (l.greedy fuel (most.map (· - 1)) (some s.pos))) (fun _ ↦ l.next s)

/-- Go on with a lazy repetition: what follows if it can be, or else another iteration. -/
def Loop.lazy (l : Loop) : (fuel : Nat) → (most : Option Nat) → (from? : Option Nat) →
    Progress → Option Progress
  | 0, _, _, _ => none
  | fuel + 1, most, from?, s =>
    orTry (l.next s) (fun _ ↦
      if most = some 0 || from? = some s.pos then none
      else l.body s (l.lazy fuel (most.map (· - 1)) (some s.pos)))

/-- Match a repetition that has to be done `least` more times before there is a choice. -/
def Loop.atLeast (l : Loop) (choice : (from? : Option Nat) → Progress → Option Progress) :
    (least : Nat) → (from? : Option Nat) → Progress → Option Progress
  | 0, from?, s => choice from? s
  | least + 1, _, s => l.body s (l.atLeast choice least (some s.pos))

/-- Match a repetition. It ends after an empty iteration beyond the least number, so `fuel`
need only exceed the length of the text. -/
def Loop.run (l : Loop) (times : Repeat) (fuel : Nat) (s : Progress) : Option Progress :=
  let extra := times.most.map (· - times.least)
  l.atLeast (if times.lazy then l.lazy fuel extra else l.greedy fuel extra) times.least none s

/-! ## Trees -/

/-- Match a tree at a place and then `next` behind it, taking the first choice that works. -/
def Node.run (t : Subject) : Node → (back : Bool) → Progress → (Progress → Option Progress) →
    Option Progress
  | .empty, _, s, next => next s
  | .nothing, _, _, _ => none
  | .char test folded, back, s, next =>
    match t.behindChar? back (test.accepts folded) s.pos with
    | none => none
    | some pos => next { s with pos := pos }
  | .chars times test folded, back, s, next => s.runChars t back times (test.accepts folded) next
  | .text codes folded, back, s, next =>
    match t.behindText? back folded codes s.pos with
    | none => none
    | some pos => next { s with pos := pos }
  | .anchor a, _, s, next => if a.holds t s.pos then next s else none
  | .seq first second, back, s, next =>
    if back then second.run t back s (fun s ↦ first.run t back s next)
    else first.run t back s (fun s ↦ second.run t back s next)
  | .alt first second, back, s, next =>
    orTry (first.run t back s next) (fun _ ↦ second.run t back s next)
  | .group index body, back, s, next =>
    body.run t back s (fun found ↦
      next { found with
        spans := (index, min s.pos found.pos, max s.pos found.pos) :: found.spans })
  | .reference index folded, back, s, next =>
    match s.spans.lookup index with
    | none => none
    | some (start, stop) =>
      match t.behindText? back folded (t.codes folded start stop) s.pos with
      | none => none
      | some pos => next { s with pos := pos }
  | .look ahead negated body, _, s, next =>
    match body.run t (!ahead) s some with
    | some found => if negated then none else next { s with spans := found.spans }
    | none => if negated then next s else none
  | .loop times body, back, s, next =>
    Loop.run ⟨body.run t back, next⟩ times (t.chars.size + 2) s
  | .atomic body, back, s, next =>
    match body.run t back s some with
    | some found => next found
    | none => none
  | .ifMatched index yes no, back, s, next =>
    if (s.spans.lookup index).isSome then yes.run t back s next else no.run t back s next
  | .ifMatches condition yes no, back, s, next =>
    match condition.run t back s some with
    | some found => yes.run t back { s with spans := found.spans } next
    | none => no.run t back s next
  | .balance _ _ body, back, s, next => body.run t back s next

end CodeViewer.Pattern
