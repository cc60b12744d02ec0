import CodeViewer.Pattern.Node

/-!
# Patterns as programs

The program of a pattern is a sequence of words. An instruction is the word of its operation,
followed by the words of its operands; where case is ignored or the text is read from right to
left the word of the operation says so. Texts and sets stand in tables, and the operands are
their places there.
-/

namespace CodeViewer.Pattern

/-- What an instruction does. -/
inductive Operation where
  /-- Read the same character a number of times. -/
  | timesOne
  | timesOther
  | timesIn
  /-- Read a character as often as possible, up to a number of times. -/
  | manyOne
  | manyOther
  | manyIn
  /-- Read a character as seldom as possible, up to a number of times. -/
  | fewOne
  | fewOther
  | fewIn
  /-- Read one character. -/
  | one
  | other
  | isIn
  | text
  | reference
  | lineStart
  | lineEnd
  | wordBoundary
  | notWordBoundary
  | textStart
  | origin
  | lastLineEnd
  | textEnd
  | nothing
  /-- Go on here, and at another place if that fails. -/
  | branch
  /-- End an iteration of a repetition. -/
  | again
  | lazyAgain
  /-- Start to count iterations, at no place or at this one. -/
  | countNowhere
  | countHere
  /-- End an iteration that is counted. -/
  | againCounted
  | lazyAgainCounted
  /-- Put down a mark that is no place, or this one. -/
  | markNowhere
  | markHere
  /-- Take up a mark: the group reaches from there to here. -/
  | capture
  /-- Take up a mark and go back to it. -/
  | goToMark
  /-- Note what can be gone back to. -/
  | enclose
  /-- Give up what can be gone back to since it was noted, and fail. -/
  | refuse
  /-- Give up what can be gone back to since it was noted, and go on. -/
  | commit
  /-- Go on only if a group has matched. -/
  | ifMatched
  | jump
  | cut
  | stop
  deriving DecidableEq, Repr

namespace Operation

/-- The operations by their numbers. -/
def all : Array Operation := #[
  .timesOne, .timesOther, .timesIn, .manyOne, .manyOther, .manyIn, .fewOne, .fewOther, .fewIn,
  .one, .other, .isIn, .text, .reference, .lineStart, .lineEnd, .wordBoundary, .notWordBoundary,
  .textStart, .origin, .lastLineEnd, .textEnd, .nothing, .branch, .again, .lazyAgain,
  .countNowhere, .countHere, .againCounted, .lazyAgainCounted, .markNowhere, .markHere, .capture,
  .goToMark, .enclose, .refuse, .commit, .ifMatched, .jump, .cut, .stop]

/-- The number of an operation. -/
def number (o : Operation) : Nat := all.toList.idxOf o

/-- Whether room may be needed to go back to an instruction. -/
def isRecorded : Operation → Bool
  | .manyOne | .manyOther | .manyIn | .fewOne | .fewOther | .fewIn => true
  | .branch | .again | .lazyAgain | .countNowhere | .countHere | .againCounted => true
  | .lazyAgainCounted | .markHere | .capture | .goToMark | .enclose | .refuse => true
  | .commit | .jump => true
  | _ => false

/-- The operation that reads one character, for a test and its place in the table of sets. -/
def ofTest : CharTest → Operation
  | .is _ => .one
  | .isNot _ => .other
  | .isIn _ => .isIn

/-- The operation that reads a character a number of times. -/
def timesOf : CharTest → Operation
  | .is _ => .timesOne
  | .isNot _ => .timesOther
  | .isIn _ => .timesIn

/-- The operation that reads a character up to a number of times. -/
def upToOf (lazy : Bool) : CharTest → Operation
  | .is _ => if lazy then .fewOne else .manyOne
  | .isNot _ => if lazy then .fewOther else .manyOther
  | .isIn _ => if lazy then .fewIn else .manyIn

/-- The operation of an anchor. -/
def ofAnchor : Anchor → Operation
  | .textStart => .textStart
  | .textEnd => .textEnd
  | .lastLineEnd => .lastLineEnd
  | .lineStart => .lineStart
  | .lineEnd => .lineEnd
  | .origin => .origin
  | .wordBoundary => .wordBoundary
  | .notWordBoundary => .notWordBoundary

end Operation

/-- A program in the making: its words, the tables, and how many instructions are recorded. -/
structure Program where
  words : Array Int
  texts : Array (List Nat)
  sets : Array CharSet
  recorded : Nat
  deriving Repr

namespace Program

/-- A program without words. -/
def empty : Program := ⟨#[], #[], #[], 0⟩

/-- The address of the next word. -/
def size (p : Program) : Nat := p.words.size

/-- Add an instruction. -/
def add (p : Program) (o : Operation) (operands : List Int) : Program :=
  { p with
    words := p.words.push o.number ++ operands
    recorded := if o.isRecorded then p.recorded + 1 else p.recorded }

/-- Add an instruction that reads text. -/
def addReading (p : Program) (back folded : Bool) (o : Operation) (operands : List Int) :
    Program :=
  { p.add o operands with
    words := p.words.push (o.number + (if back then 64 else 0) + (if folded then 512 else 0))
      ++ operands }

/-- Set the operand at an address, which was not known before. -/
def resolve (p : Program) (address : Nat) : Program :=
  { p with words := p.words.setIfInBounds address p.size }

/-- The operand of a text, which is put into the table unless it is there. -/
def textOperand (p : Program) (codes : List Nat) : Int × Program :=
  match p.texts.toList.idxOf? codes with
  | some i => (i, p)
  | none => (p.texts.size, { p with texts := p.texts.push codes })

/-- The operand of a test, whose set is put into the table unless it is there. -/
def testOperand (p : Program) : CharTest → Int × Program
  | .is code => (code, p)
  | .isNot code => (code, p)
  | .isIn s =>
    match p.sets.toList.idxOf? s with
    | some i => (i, p)
    | none => (p.sets.size, { p with sets := p.sets.push s })

/-- Add the start of a repetition: a mark, or a mark and a count if the bounds ask for one. -/
def addLoopStart (p : Program) (times : Repeat) : Program :=
  if times.isCounted then
    if times.least = 0 then p.add .countNowhere [0] else p.add .countHere [1 - times.least]
  else if times.least = 0 then p.add .markNowhere []
  else p.add .markHere []

/-- Add the end of an iteration of a repetition whose body starts at `top`. -/
def addLoopEnd (p : Program) (times : Repeat) (top : Nat) : Program :=
  if times.isCounted then
    let limit : Int := (times.most.map (fun n ↦ (n : Int) - times.least)).getD countLimit
    p.add (if times.lazy then .lazyAgainCounted else .againCounted) [top, limit]
  else p.add (if times.lazy then .lazyAgain else .again) [top]

/-- Add the instructions of a tree. -/
def addNode (back : Bool) : Node → Program → Program
  | .empty, p => p
  | .nothing, p => p.add .nothing []
  | .char test folded, p =>
    let (operand, p) := p.testOperand test
    p.addReading back folded (.ofTest test) [operand]
  | .chars times test folded, p =>
    let (operand, p) := p.testOperand test
    let p :=
      if times.least = 0 then p
      else p.addReading back folded (.timesOf test) [operand, times.least]
    if times.mostCount ≤ times.least then p
    else
      let limit : Int := (times.most.map (fun n ↦ (n : Int) - times.least)).getD countLimit
      p.addReading back folded (.upToOf times.lazy test) [operand, limit]
  | .text codes folded, p =>
    let (operand, p) := p.textOperand codes
    p.addReading back folded .text [operand]
  | .anchor a, p => p.add (.ofAnchor a) []
  | .seq first second, p =>
    if back then addNode back first (addNode back second p)
    else addNode back second (addNode back first p)
  | .alt first second, p =>
    let fork := p.size + 1
    let p := addNode back first (p.add .branch [0])
    let way := p.size + 1
    let p := (p.add .jump [0]).resolve fork
    (addNode back second p).resolve way
  | .group index body, p =>
    (addNode back body (p.add .markHere [])).add .capture [index, -1]
  | .reference index folded, p => p.addReading back folded .reference [index]
  | .look ahead negated body, p =>
    if negated then
      let p := p.add .enclose []
      let fork := p.size + 1
      let p := addNode (!ahead) body (p.add .branch [0])
      ((p.add .refuse []).resolve fork).add .commit []
    else
      let p := addNode (!ahead) body ((p.add .enclose []).add .markHere [])
      (p.add .goToMark []).add .commit []
  | .loop times body, p =>
    let p := p.addLoopStart times
    let way := p.size + 1
    let p := if times.least = 0 then p.add .jump [0] else p
    let top := p.size
    let p := addNode back body p
    let p := if times.least = 0 then p.resolve way else p
    p.addLoopEnd times top
  | .atomic body, p => (addNode back body (p.add .enclose [])).add .commit []
  | .ifMatched index yes no, p =>
    let p := p.add .enclose []
    let fork := p.size + 1
    let p := ((p.add .branch [0]).add .ifMatched [index]).add .commit []
    let p := addNode back yes p
    let way := p.size + 1
    let p := ((p.add .jump [0]).resolve fork).add .commit []
    (addNode back no p).resolve way
  | .ifMatches condition yes no, p =>
    let p := (p.add .enclose []).add .markHere []
    let fork := p.size + 1
    let p := addNode back condition (p.add .branch [0])
    let p := addNode back yes ((p.add .goToMark []).add .commit [])
    let way := p.size + 1
    let p := (((p.add .jump [0]).resolve fork).add .goToMark []).add .commit []
    (addNode back no p).resolve way
  | .balance index freed body, p =>
    let captured : Int := (index.map Int.ofNat).getD (-1)
    (addNode back body (p.add .markHere [])).add .capture [captured, freed]

/-- The program of a tree: the match is the group with the number zero, and a failure leads to
the end. -/
def ofNode (n : Node) : Program :=
  let p := (empty.add .branch [0]).add .markHere []
  (((addNode false n p).add .capture [0, -1]).resolve 1).add .stop []

end Program

end CodeViewer.Pattern
