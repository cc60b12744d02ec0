import CodeViewer.Pattern.Machine

/-!
# Searching a text for a pattern

A pattern is tried at one place after another. One that asks for the place the search started
from is tried there only. Any other is passed over where the next character cannot be its first:
the set of possible first characters is read off the tree. Where any of them ignores case, all
are looked up in lower case, so that upper-case letters may be passed over that the tree would
accept.
-/

namespace CodeViewer.Pattern

/-- What a match can start with: a set of characters, whether the match can be empty, and
whether case is ignored. -/
structure FirstChars where
  set : CharSet
  nullable : Bool
  folded : Bool
  deriving Repr

namespace FirstChars

/-- What starts with nothing in particular, such as a condition. -/
def none : FirstChars := ⟨.ofLayer (Layer.empty false), true, false⟩

/-- What starts with the characters of either; only plain sets can be united. -/
def join? (f g : FirstChars) (nullable : Bool) : Option FirstChars :=
  if f.set.isPlain && g.set.isPlain then
    some ⟨f.set.union g.set, nullable, f.folded || g.folded⟩
  else Option.none

/-- Whether a match can start with a character. -/
def admits (f : FirstChars) (c : Char) : Bool :=
  let set : CharSet := if f.folded then { f.set with base := f.set.base.lower } else f.set
  set.contains (foldCase f.folded c)

end FirstChars

/-- The set of the characters that pass a test. What lies above an excluded code point counts
only if that is in the basic plane. -/
def CharTest.firstSet : CharTest → CharSet
  | .is code => .ofLayer ((Layer.empty false).addCode code)
  | .isNot code =>
    let below := if 0 < code then [(0, code - 1)] else []
    let above := if code < 0xffff then [(code + 1, maxCode)] else []
    .ofLayer ⟨below ++ above, [], false⟩
  | .isIn s => s

/-- What the matches of a tree can start with, if that can be told. -/
def Node.firstChars? : Node → Option FirstChars
  | .empty => some .none
  | .nothing => some .none
  | .char test folded => some ⟨test.firstSet, false, folded⟩
  | .chars times test folded => some ⟨test.firstSet, times.least == 0, folded⟩
  | .text [] _ => some .none
  | .text (code :: _) folded => some ⟨(CharTest.is code).firstSet, false, folded⟩
  | .anchor _ => some .none
  | .seq first second =>
    match first.firstChars? with
    | none => none
    | some f =>
      if !f.nullable then some f
      else
        match second.firstChars? with
        | none => none
        | some g => f.join? g g.nullable
  | .alt first second =>
    match first.firstChars?, second.firstChars? with
    | some f, some g => f.join? g (f.nullable || g.nullable)
    | _, _ => none
  | .group _ body => body.firstChars?
  | .reference _ _ => some ⟨.ofLayer Layer.all, true, false⟩
  | .look _ _ _ => some .none
  | .loop times body =>
    body.firstChars?.map (fun f ↦ { f with nullable := f.nullable || times.least == 0 })
  | .atomic body => body.firstChars?
  | .ifMatched _ yes no =>
    match yes.firstChars?, no.firstChars? with
    | some f, some g => f.join? g (f.nullable || g.nullable)
    | _, _ => none
  | .ifMatches _ yes no =>
    match yes.firstChars?, no.firstChars? with
    | some f, some g => f.join? g (f.nullable || g.nullable)
    | _, _ => none
  | .balance _ _ body => body.firstChars?

/-- The first characters that a search looks for: those of a tree that is never empty and does
not begin with the start or the end of the text. -/
def Node.sought? (n : Node) : Option FirstChars :=
  if n.startsAtEdge then none
  else n.firstChars?.filter (fun f ↦ !f.nullable && !f.set.isBlank)

/-- The number of characters of a text in front that a search looks at. -/
def leadLimit : Nat := 50

/-- The text that the matches of a tree begin with, and whether case is ignored, if there is a
plain one in front; `next` is that of what follows the tree. Conditions are passed over, except
that the place is no word boundary. -/
def Node.lead? : Node → (next : Option (List Nat × Bool)) → Option (List Nat × Bool)
  | .empty, next => next
  | .anchor .notWordBoundary, _ => none
  | .anchor _, next => next
  | .look _ _ _, next => next
  | .char (.is code) folded, _ => some ([code], folded)
  | .chars times (.is code) folded, _ =>
    if times.least = 0 then none
    else some (List.replicate (min leadLimit times.least) code, folded)
  | .text codes folded, _ => some (codes.take leadLimit, folded)
  | .seq first second, next => first.lead? (second.lead? next)
  | .group _ body, _ => body.lead? none
  | .atomic body, _ => body.lead? none
  | .balance _ _ body, _ => body.lead? none
  | _, _ => none

/-- Where a search tries to find a match. -/
inductive Whereabouts where
  /-- Where the search started only. -/
  | origin
  /-- At the start of the text only. -/
  | textStart
  | anywhere
  deriving DecidableEq, Repr

/-- Where the matches of a tree can be. -/
def Node.whereabouts : Node → Whereabouts
  | .anchor .origin => .origin
  | .anchor .textStart => .textStart
  | .seq first _ => first.whereabouts
  | _ => .anywhere

/-! ## Searching with a machine -/

/-- More steps than a machine can take. -/
def endless : Nat := 4611686018427387904

/-- Whether a text stands at a place, or none is asked for. -/
def Subject.hasLead (t : Subject) (lead : Option (List Nat × Bool)) (pos : Nat) : Bool :=
  lead.all (fun (codes, folded) ↦ t.spells folded codes pos)

/-- The place from `pos` on where a match of a tree is to be tried next. -/
def Node.nextPlace? (n : Node) (t : Subject) (pos : Int) : Option Int :=
  let fixed (place : Nat) : Option Int :=
    if pos ≤ place && t.hasLead (n.lead? none) pos.toNat then some pos else none
  match n.whereabouts with
  | .origin => fixed t.origin
  | .textStart => fixed 0
  | .anywhere =>
    match n.sought? with
    | none => some pos
    | some first =>
      ((List.range' pos.toNat (t.chars.size - pos.toNat)).find? (fun i ↦
        (t.chars[i]?).any first.admits)).map Int.ofNat

/-- The length of the first match from `pos` on. -/
def Machine.search (n : Node) (t : Task) :
    (fuel : Nat) → Machine → (pos : Int) → Except Breakdown (Option Int)
  | 0, _, _ => .ok none
  | fuel + 1, m, pos =>
    match n.nextPlace? t.subject pos with
    | none => .ok none
    | some pos => do
      let m ← m.runAt t endless pos
      match m.matched? with
      | some length => return some length
      | none => if m.pos = t.size then return none else m.search n t fuel (m.pos + 1)

end CodeViewer.Pattern

namespace CodeViewer

/-- A pattern that can be searched for. One that is not steady has a program. -/
structure Pattern where
  source : String
  node : Pattern.Node
  program : Option Pattern.Program
  deriving Repr

namespace Pattern

/-- The pattern of a tree that was read from a text. -/
def ofNode (source : String) (n : Node) : Pattern :=
  ⟨source, n, if n.isSteady then none else some (Program.ofNode n)⟩

/-- The number of characters of the match of a steady pattern at index `start`, for a search
from `origin`. -/
def lengthAt? (p : Pattern) (chars : Array Char) (origin start : Nat) : Option Nat :=
  (p.node.run ⟨chars, origin⟩ false ⟨start, []⟩ some).map (·.pos - start)

/-- The number of characters of the first match of a steady pattern at or after `origin`. -/
def steadyLength? (p : Pattern) (chars : Array Char) (origin : Nat) : Option Nat :=
  if p.node.startsAtOrigin then p.lengthAt? chars origin origin
  else
    let places := List.range' origin (chars.size + 1 - origin)
    let tried : List Nat :=
      match p.node.sought? with
      | none => places
      | some first => places.filter (fun i ↦ (chars[i]?).any first.admits)
    tried.findSome? (p.lengthAt? chars origin)

/-- The number of characters of the first match at or after `origin`. -/
def matchLength? (p : Pattern) (chars : Array Char) (origin : Nat) :
    Except Breakdown (Option Nat) :=
  match p.program with
  | none => .ok (p.steadyLength? chars origin)
  | some program =>
    ((Machine.ofProgram program).search p.node ⟨program, chars, origin⟩ endless origin).map
      (·.map Int.toNat)

end Pattern

end CodeViewer
