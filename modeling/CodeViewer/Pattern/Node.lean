import CodeViewer.Pattern.CharSet

/-!
# Patterns as trees

The tree of a pattern. `folded` marks the parts in which case is ignored. Trees are put
together by `Node.sequence`, `Node.alternation` and `Node.times`, which keep them simple:
neighbouring characters become a text, alternatives of one character become a set, and a
repetition of a repetition becomes one repetition where the counts allow it.
-/

namespace CodeViewer.Pattern

/-- A condition on a place between two characters. -/
inductive Anchor where
  /-- The start of the text. -/
  | textStart
  /-- The end of the text. -/
  | textEnd
  /-- The end of the text, or the place before a line feed that ends it. -/
  | lastLineEnd
  /-- The start of the text or the place after a line feed. -/
  | lineStart
  /-- The end of the text or the place before a line feed. -/
  | lineEnd
  /-- The place the search started from. -/
  | origin
  /-- A place with a word character on exactly one side. -/
  | wordBoundary
  /-- Any place that is no word boundary. -/
  | notWordBoundary
  deriving DecidableEq, Repr

/-- How often something is repeated: at least `least` and at most `most` times, as few as
possible if `lazy`. -/
structure Repeat where
  least : Nat
  most : Option Nat
  lazy : Bool
  deriving DecidableEq, Repr

/-- The tree of a pattern. -/
inductive Node where
  | empty
  /-- What matches nowhere. -/
  | nothing
  | char (test : CharTest) (folded : Bool)
  /-- A repetition of one character. -/
  | chars (times : Repeat) (test : CharTest) (folded : Bool)
  | text (codes : List Nat) (folded : Bool)
  | anchor (a : Anchor)
  | seq (first second : Node)
  | alt (first second : Node)
  /-- A numbered group, whose latest match a later reference repeats. -/
  | group (index : Nat) (body : Node)
  | reference (index : Nat) (folded : Bool)
  /-- A condition on what follows (`ahead`) or precedes the place. -/
  | look (ahead negated : Bool) (body : Node)
  /-- A repetition of anything else. -/
  | loop (times : Repeat) (body : Node)
  /-- Only the first match of the body is taken. -/
  | atomic (body : Node)
  /-- One of two trees, as the group has matched or not. -/
  | ifMatched (index : Nat) (yes no : Node)
  /-- One of two trees, as the condition matches from here or not. -/
  | ifMatches (condition yes no : Node)
  /-- Take back the latest match of the group `freed`, which there must be, and give the group
  `index`, if there is one, what lies between that match and the body's. -/
  | balance (index : Option Nat) (freed : Nat) (body : Node)
  deriving DecidableEq, Repr

namespace Node

/-! ## Sequences -/

/-- The concatenation of several trees. -/
def ofList : List Node → Node
  | [] => .empty
  | [n] => n
  | n :: ns => .seq n (ofList ns)

/-- The parts of a sequence, empty ones left out. -/
def factors : Node → List Node
  | .empty => []
  | .seq first second => first.factors ++ second.factors
  | n => [n]

/-- The code points of a tree that stands for itself, and whether case is ignored. -/
def literal? : Node → Option (List Nat × Bool)
  | .char (.is code) folded => some ([code], folded)
  | .text codes folded => some (codes, folded)
  | _ => none

/-- Put a part in front of others; a text grows by the text in front of it. -/
def consFactor (n : Node) : List Node → List Node
  | [] => [n]
  | m :: ns =>
    match n.literal?, m.literal? with
    | some (codes, folded), some (more, folded') =>
      if folded = folded' then .text (codes ++ more) folded :: ns else n :: m :: ns
    | _, _ => n :: m :: ns

/-- The tree of trees that follow one another. -/
def sequence (items : List Node) : Node :=
  ofList ((items.flatMap factors).foldr consFactor [])

/-! ## Alternatives -/

/-- The alternation of several trees, tried in this order. -/
def ofAlternatives : List Node → Node
  | [] => .nothing
  | [n] => n
  | n :: ns => .alt n (ofAlternatives ns)

/-- The alternatives of a tree, those that match nowhere left out. -/
def alternatives : Node → List Node
  | .nothing => []
  | .alt first second => first.alternatives ++ second.alternatives
  | n => [n]

/-- The set of a tree that stands for one character of a plain set, and whether case is
ignored. -/
def plainSet? : Node → Option (CharSet × Bool)
  | .char test folded => test.plainSet?.map (·, folded)
  | _ => none

/-- Put an alternative in front of others; neighbouring alternatives of one character become
one set. -/
def consAlternative (n : Node) : List Node → List Node
  | [] => [n]
  | m :: ns =>
    match n.plainSet?, m.plainSet? with
    | some (s, folded), some (t, folded') =>
      if folded = folded' then .char (.isIn (s.union t)) folded :: ns else n :: m :: ns
    | _, _ => n :: m :: ns

/-- The tree of alternatives. -/
def alternation (items : List Node) : Node :=
  ofAlternatives ((items.flatMap alternatives).foldr consAlternative [])

end Node

/-! ## Repetitions -/

/-- The count that stands for any number of repetitions. -/
def countLimit : Nat := 2147483647

/-- The product of two counts; what exceeds the limit is the limit. -/
def multiplyCounts (inner outer : Nat) : Nat :=
  if inner = 0 then 0
  else if (countLimit - 1) / inner < outer then countLimit
  else inner * outer

namespace Repeat

/-- The upper bound as a count. -/
def mostCount (r : Repeat) : Nat := r.most.getD countLimit

/-- Whether the iterations have to be counted: whether there is a bound that the first iteration
does not settle. -/
def isCounted (r : Repeat) : Bool := r.most.isSome || 1 < r.least

/-- A repetition between two counts; the largest count means any number. -/
def ofCounts (least most : Nat) (lazy : Bool) : Repeat :=
  ⟨least, if most < countLimit then some most else none, lazy⟩

/-- The inner repetition done as often as the outer one says. -/
def scale (inner outer : Repeat) : Repeat :=
  ofCounts (multiplyCounts inner.least outer.least)
    (multiplyCounts inner.mostCount outer.mostCount) inner.lazy

/-- Whether an outer repetition of an inner one is taken for a single one. Both must be lazy or
neither, and the inner one must leave no gaps worth minding. -/
def absorbs (outer inner : Repeat) : Bool :=
  outer.lazy == inner.lazy && !(outer.least == 0 && 1 < inner.least)
    && 2 * inner.least ≤ inner.mostCount

end Repeat

/-- A repetition of a tree. No text is long enough for the largest count. -/
def Node.times (r : Repeat) (n : Node) : Node :=
  if r.most = some 0 then .empty
  else if r.least = 1 && r.most = some 1 then n
  else if countLimit ≤ r.least then .nothing
  else
    match n with
    | .char test folded => .chars r test folded
    | .chars inner test folded =>
      if r.absorbs inner then .chars (inner.scale r) test folded else .loop r n
    | .loop inner body => if r.absorbs inner then .loop (inner.scale r) body else .loop r n
    | _ => .loop r n

/-! ## Trees that match nothing -/

/-- A tree all of whose matches are plainly longer than nothing. -/
def Node.neverEmpty : Node → Bool
  | .nothing => true
  | .char _ _ => true
  | .chars times _ _ => 0 < times.least
  | .text codes _ => !codes.isEmpty
  | .seq first second => first.neverEmpty || second.neverEmpty
  | .alt first second => first.neverEmpty && second.neverEmpty
  | .group _ body => body.neverEmpty
  | .loop times body => 0 < times.least && body.neverEmpty
  | .atomic body => body.neverEmpty
  | .ifMatched _ yes no => yes.neverEmpty && no.neverEmpty
  | .ifMatches _ yes no => yes.neverEmpty && no.neverEmpty
  | .balance _ _ body => body.neverEmpty
  | _ => false

/-- A tree in which no match is taken back and no lazy repetition without bounds can have an
empty iteration. -/
def Node.isSteady : Node → Bool
  | .seq first second => first.isSteady && second.isSteady
  | .alt first second => first.isSteady && second.isSteady
  | .group _ body => body.isSteady
  | .look _ _ body => body.isSteady
  | .loop times body => (!times.lazy || times.isCounted || body.neverEmpty) && body.isSteady
  | .atomic body => body.isSteady
  | .ifMatched _ yes no => yes.isSteady && no.isSteady
  | .ifMatches condition yes no => condition.isSteady && yes.isSteady && no.isSteady
  | .balance _ _ _ => false
  | _ => true

/-! ## Trees that match in certain places only -/

/-- A tree that can only match where the search started, because it begins by asking so. -/
def Node.startsAtOrigin : Node → Bool
  | .anchor .origin => true
  | .seq first _ => first.startsAtOrigin
  | _ => false

/-- A tree that begins by asking for the start or the end of the text. -/
def Node.startsAtEdge : Node → Bool
  | .anchor .textStart => true
  | .anchor .textEnd => true
  | .anchor .lastLineEnd => true
  | .seq first _ => first.startsAtEdge
  | _ => false

end CodeViewer.Pattern
