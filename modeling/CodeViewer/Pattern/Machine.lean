import CodeViewer.Pattern.Captured
import CodeViewer.Pattern.Matcher
import CodeViewer.Pattern.Program

/-!
# Running programs

A machine runs the program of a pattern. It has two tapes. On the trail it notes what it can go
back to: the address of an instruction, negative if that is to be undone for good, and below it
what the instruction needs to know. The marks are places, counts and heights that instructions
leave for later ones.

A lazy repetition without bounds that ends with an empty iteration leaves a mark behind. Whoever
takes up the next mark takes up this one, so matches may start or end in unexpected places, and
the machine may leave the text or its tapes, which is a breakdown.
-/

namespace CodeViewer.Pattern

/-- How an instruction is come to. -/
inductive Entry where
  | forward
  /-- What follows has failed. -/
  | back
  /-- What follows has failed and the instruction has no other choice left. -/
  | undo
  deriving DecidableEq, Repr

/-- An instruction as it is carried out. -/
structure Instruction where
  operation : Operation
  entry : Entry
  /-- Whether text is read from right to left. -/
  back : Bool
  folded : Bool
  deriving DecidableEq, Repr

/-- The bits of an entry. -/
def Entry.bits : Entry → Nat
  | .forward => 0
  | .back => 128
  | .undo => 256

/-- The entry of two bits. -/
def Entry.ofBits? : Nat → Option Entry
  | 0 => some .forward
  | 1 => some .back
  | 2 => some .undo
  | _ => none

/-- The instruction of a word that is come to in some way. Any word may be taken for one. -/
def Instruction.decode (word : Int) (entry : Entry) : Except Breakdown Instruction :=
  let bits := word.toNat ||| entry.bits
  match Operation.all[bits % 64]?, Entry.ofBits? (bits / 128 % 4) with
  | some o, some entry =>
    if word < 0 || 1024 ≤ bits then .error .unknownInstruction
    else .ok ⟨o, entry, bits / 64 % 2 = 1, 512 ≤ bits⟩
  | _, _ => .error .unknownInstruction

/-- The state of a machine: the place in the text, the instruction and its address, what can be
gone back to, the marks, and what the groups have matched. -/
structure Machine where
  pos : Int
  address : Nat
  instruction : Instruction
  trail : Tape
  marks : Tape
  captures : Captures
  deriving Repr

/-- A program and the text it is run on. -/
structure Task where
  program : Program
  subject : Subject

namespace Task

/-- The number of characters of the text. -/
def size (t : Task) : Int := t.subject.chars.size

/-- The character at an index. -/
def charAt (t : Task) (i : Int) : Except Breakdown Char := elementAt t.subject.chars i

/-- The test of an instruction that reads characters, for its first operand. -/
def test (t : Task) (o : Operation) (operand : Int) : Except Breakdown CharTest :=
  let code : Nat := if operand < 0 then maxCode + 1 else operand.toNat
  match o with
  | .timesOne | .manyOne | .fewOne | .one => .ok (.is code)
  | .timesOther | .manyOther | .fewOther | .other => .ok (.isNot code)
  | _ => (elementAt t.program.sets operand).map .isIn

/-- Whether the place before an index is a word boundary. -/
def isBoundary (t : Task) (pos : Int) : Except Breakdown Bool := do
  let before ← if 0 < pos then (t.charAt (pos - 1)).map Unicode.isWord else .ok false
  let behind ← if pos < t.size then (t.charAt pos).map Unicode.isWord else .ok false
  return before != behind

/-- Whether an anchor holds at the place before an index. -/
def anchorHolds (t : Task) (pos : Int) : Operation → Except Breakdown Bool
  | .lineStart => if 0 < pos then (t.charAt (pos - 1)).map (· == '\n') else .ok true
  | .lineEnd => if pos < t.size then (t.charAt pos).map (· == '\n') else .ok true
  | .wordBoundary => t.isBoundary pos
  | .notWordBoundary => (t.isBoundary pos).map (!·)
  | .textStart => .ok (pos ≤ 0)
  | .origin => .ok (pos == t.subject.origin)
  | .lastLineEnd =>
    if 1 < t.size - pos then .ok false
    else if t.size - pos = 1 then (t.charAt pos).map (· == '\n')
    else .ok true
  | _ => .ok (t.size ≤ pos)

/-- The number of characters that are left to be read. -/
def ahead (t : Task) (back : Bool) (pos : Int) : Int := if back then pos else t.size - pos

/-- The place behind one character. -/
def behind (back : Bool) (pos : Int) : Int := if back then pos - 1 else pos + 1

/-- How many characters in a row pass a test, `count` having done so, up to `fuel` more, and the
place behind them. -/
def readRun (t : Task) (back : Bool) (p : Char → Bool) :
    (fuel count : Nat) → (pos : Int) → Except Breakdown (Nat × Int)
  | 0, count, pos => .ok (count, pos)
  | fuel + 1, count, pos => do
    let c ← t.charAt (if back then pos - 1 else pos)
    if p c then t.readRun back p fuel (count + 1) (behind back pos) else return (count, pos)

/-- Whether the characters before an index spell a text, given in reverse. -/
def spellsBack (t : Task) (folded : Bool) : List Nat → (pos : Int) → Except Breakdown Bool
  | [], _ => .ok true
  | code :: codes, pos => do
    let c ← t.charAt (pos - 1)
    if CharTest.accepts folded (.is code) c then t.spellsBack folded codes (pos - 1)
    else return false

/-- The place behind a text, if it stands at a place. -/
def behindText? (t : Task) (back folded : Bool) (codes : List Nat) (pos : Int) :
    Except Breakdown (Option Int) := do
  let length : Int := codes.length
  if t.ahead back pos < length then return none
  let stop := if back then pos else pos + length
  if ← t.spellsBack folded codes.reverse stop then
    return some (if back then pos - length else stop)
  else return none

/-- Whether the characters before two indices agree, `length` of them. -/
def repeatsBack (t : Task) (folded : Bool) : (length : Nat) → (pos earlier : Int) →
    Except Breakdown Bool
  | 0, _, _ => .ok true
  | length + 1, pos, earlier => do
    let c ← t.charAt (earlier - 1)
    let d ← t.charAt (pos - 1)
    if foldCase folded c = foldCase folded d then
      t.repeatsBack folded length (pos - 1) (earlier - 1)
    else return false

/-- The place behind a repetition of the characters from `start` on, if it stands at a place. No
text is long enough for a negative length. -/
def behindRepeat? (t : Task) (back folded : Bool) (start length pos : Int) :
    Except Breakdown (Option Int) := do
  if t.ahead back pos < length then return none
  if length < 0 then throw .outOfRange
  let stop := if back then pos else pos + length
  if ← t.repeatsBack folded length.toNat stop (start + length) then
    return some (if back then pos - length else stop)
  else return none

end Task

namespace Machine

/-! ## Moving through the program -/

/-- Make room on both tapes for what a pass through the program may need. -/
def reserve (t : Task) (m : Machine) : Machine :=
  { m with
    trail := m.trail.reserve (4 * t.program.recorded)
    marks := m.marks.reserve (4 * t.program.recorded) }

/-- Go to an address. Going back or staying makes room first. -/
def goTo (t : Task) (m : Machine) (address : Int) : Except Breakdown Machine := do
  let word ← elementAt t.program.words address
  let instruction ← Instruction.decode word .forward
  let m := if address ≤ m.address then m.reserve t else m
  return { m with address := address.toNat, instruction := instruction }

/-- Go to the next instruction, behind the operands of this one. -/
def advance (t : Task) (m : Machine) (operands : Nat) : Except Breakdown Machine := do
  let address := m.address + operands + 1
  let word ← elementAt t.program.words address
  let instruction ← Instruction.decode word .forward
  return { m with address := address, instruction := instruction }

/-- Go back to what the trail says. -/
def fail (t : Task) (m : Machine) : Except Breakdown Machine := do
  let trail := m.trail.drop 1
  let noted ← trail.above 0
  let word ← elementAt t.program.words noted.natAbs
  let instruction ← Instruction.decode word (if noted < 0 then .undo else .back)
  let m := { m with trail := trail }
  let m := if noted.natAbs < m.address then m.reserve t else m
  return { m with address := noted.natAbs, instruction := instruction }

/-- An operand of the instruction. -/
def operand (t : Task) (m : Machine) (i : Nat) : Except Breakdown Int :=
  elementAt t.program.words (m.address + i + 1)

/-- Note on the trail that the instruction can be come back to, and what it then needs. -/
def note (m : Machine) (needed : List Int) : Except Breakdown Machine := do
  return { m with trail := ← m.trail.pushAll (needed ++ [(m.address : Int)]) }

/-- Note on the trail that the instruction has to be undone, and what is then needed. -/
def noteUndo (m : Machine) (needed : List Int) : Except Breakdown Machine := do
  return { m with trail := ← m.trail.pushAll (needed ++ [-(m.address : Int)]) }

/-- Put down marks, the first one undermost. -/
def mark (m : Machine) (marks : List Int) : Except Breakdown Machine := do
  return { m with marks := ← m.marks.pushAll marks }

/-- Take up marks. -/
def unmark (m : Machine) (count : Nat) : Machine := { m with marks := m.marks.drop count }

/-- Take notes off the trail. -/
def unnote (m : Machine) (count : Nat) : Machine := { m with trail := m.trail.drop count }

/-- Go to a place of the text. -/
def movedTo (m : Machine) (pos : Int) : Machine := { m with pos := pos }

/-- Set what groups have matched. -/
def withCaptures (m : Machine) (captures : Captures) : Machine := { m with captures := captures }

/-- Set the height of the trail. -/
def cutTo (m : Machine) (height : Int) : Machine :=
  { m with trail := { m.trail with height := height } }

/-! ## Reading text -/

/-- Read one character. -/
def readOne (t : Task) (m : Machine) : Except Breakdown Machine := do
  let i := m.instruction
  if t.ahead i.back m.pos < 1 then m.fail t
  else
    let test ← t.test i.operation (← m.operand t 0)
    let c ← t.charAt (if i.back then m.pos - 1 else m.pos)
    if test.accepts i.folded c then (m.movedTo (Task.behind i.back m.pos)).advance t 1
    else m.fail t

/-- Read a text. -/
def readText (t : Task) (m : Machine) : Except Breakdown Machine := do
  let i := m.instruction
  let codes ← elementAt t.program.texts (← m.operand t 0)
  match ← t.behindText? i.back i.folded codes m.pos with
  | some pos => (m.movedTo pos).advance t 1
  | none => m.fail t

/-- Read what a group has matched. -/
def readReference (t : Task) (m : Machine) : Except Breakdown Machine := do
  let i := m.instruction
  let entries := m.captures.get (← m.operand t 0)
  if ← entries.isMatched then
    match ← t.behindRepeat? i.back i.folded (← entries.start) (← entries.length) m.pos with
    | some pos => (m.movedTo pos).advance t 1
    | none => m.fail t
  else m.fail t

/-- Read a character a number of times. -/
def readTimes (t : Task) (m : Machine) : Except Breakdown Machine := do
  let i := m.instruction
  let times ← m.operand t 1
  if t.ahead i.back m.pos < times then m.fail t
  else
    let test ← t.test i.operation (← m.operand t 0)
    let (count, pos) ← t.readRun i.back (test.accepts i.folded) times.toNat 0 m.pos
    if count = times.toNat then (m.movedTo pos).advance t 2 else m.fail t

/-- Read a character as often as possible, and note that one less may do. -/
def readMany (t : Task) (m : Machine) : Except Breakdown Machine := do
  let i := m.instruction
  let test ← t.test i.operation (← m.operand t 0)
  let most := min (← m.operand t 1) (t.ahead i.back m.pos)
  let (count, pos) ← t.readRun i.back (test.accepts i.folded) most.toNat 0 m.pos
  let m := m.movedTo pos
  let m ← if count = 0 then pure m else m.note [count - 1, Task.behind (!i.back) pos]
  m.advance t 2

/-- Go on with one character less. -/
def readFewer (t : Task) (m : Machine) : Except Breakdown Machine := do
  let m := m.unnote 2
  let rest ← m.trail.above 0
  let pos ← m.trail.above 1
  let m := m.movedTo pos
  let m ← if rest ≤ 0 then pure m else m.note [rest - 1, Task.behind (!m.instruction.back) pos]
  m.advance t 2

/-- Read no character, and note that one more may do. -/
def readFew (t : Task) (m : Machine) : Except Breakdown Machine := do
  let most := min (← m.operand t 1) (t.ahead m.instruction.back m.pos)
  let m ← if most ≤ 0 then pure m else m.note [most - 1, m.pos]
  m.advance t 2

/-- Go on with one character more. -/
def readMore (t : Task) (m : Machine) : Except Breakdown Machine := do
  let i := m.instruction
  let m := m.unnote 2
  let rest ← m.trail.above 0
  let pos ← m.trail.above 1
  let test ← t.test i.operation (← m.operand t 0)
  let c ← t.charAt (if i.back then pos - 1 else pos)
  if test.accepts i.folded c then
    let pos := Task.behind i.back pos
    let m := m.movedTo pos
    let m ← if rest ≤ 0 then pure m else m.note [rest - 1, pos]
    m.advance t 2
  else m.fail t

/-! ## Repetitions -/

/-- End an iteration: another one follows unless this one was empty. -/
def iterate (t : Task) (m : Machine) : Except Breakdown Machine := do
  let m := m.unmark 1
  let start ← m.marks.above 0
  if m.pos = start then (← m.noteUndo [start]).advance t 1
  else (← (← m.note [start, m.pos]).mark [m.pos]).goTo t (← m.operand t 0)

/-- The iteration that was to follow has failed: go on behind the repetition. -/
def leave (t : Task) (m : Machine) : Except Breakdown Machine := do
  let m := (m.unnote 2).unmark 1
  let start ← m.trail.above 0
  let pos ← m.trail.above 1
  (← (m.movedTo pos).noteUndo [start]).advance t 1

/-- Put back the mark that was taken up. -/
def remark (t : Task) (m : Machine) : Except Breakdown Machine := do
  let m := m.unnote 1
  (← m.mark [← m.trail.above 0]).fail t

/-- End an iteration of a lazy repetition: go on behind it. After an empty iteration the mark
stays, and what is noted is the value of the cell above it. -/
def iterateLazily (t : Task) (m : Machine) : Except Breakdown Machine := do
  let m := m.unmark 1
  let start ← m.marks.above 0
  if m.pos = start then
    let m ← m.mark [start]
    (← m.noteUndo [← m.marks.above 0]).advance t 1
  else (← m.note [if start = -1 then m.pos else start, m.pos]).advance t 1

/-- What follows a lazy repetition has failed: do another iteration. -/
def iterateMore (t : Task) (m : Machine) : Except Breakdown Machine := do
  let m := m.unnote 2
  let start ← m.trail.above 0
  let pos ← m.trail.above 1
  let m ← (← m.noteUndo [start]).mark [pos]
  (m.movedTo pos).goTo t (← m.operand t 0)

/-- Undo a lazy repetition. -/
def undoLazily (t : Task) (m : Machine) : Except Breakdown Machine := do
  let m := (m.unmark 1).unnote 1
  (← m.mark [← m.trail.above 0]).fail t

/-- End a counted iteration: another one follows unless there were enough, or this one was empty
and not needed. -/
def iterateCounted (t : Task) (m : Machine) : Except Breakdown Machine := do
  let m := m.unmark 2
  let start ← m.marks.above 0
  let count ← m.marks.above 1
  if (← m.operand t 1) ≤ count || (m.pos = start && 0 ≤ count) then
    (← m.noteUndo [start, count]).advance t 2
  else (← (← m.note [start]).mark [m.pos, count + 1]).goTo t (← m.operand t 0)

/-- The counted iteration that was to follow has failed: go on behind the repetition if there
were enough. -/
def leaveCounted (t : Task) (m : Machine) : Except Breakdown Machine := do
  let m := (m.unnote 1).unmark 2
  let start ← m.trail.above 0
  let pos ← m.marks.above 0
  let count ← m.marks.above 1
  if 0 < count then (← (m.movedTo pos).noteUndo [start, count - 1]).advance t 2
  else (← m.mark [start, count - 1]).fail t

/-- Put back the mark and the count that were taken up. -/
def remarkCounted (t : Task) (m : Machine) : Except Breakdown Machine := do
  let m := m.unnote 2
  (← m.mark [← m.trail.above 0, ← m.trail.above 1]).fail t

/-- End a counted iteration of a lazy repetition: go on behind it if there were enough. -/
def iterateLazilyCounted (t : Task) (m : Machine) : Except Breakdown Machine := do
  let m := m.unmark 2
  let start ← m.marks.above 0
  let count ← m.marks.above 1
  if count < 0 then (← (← m.noteUndo [start]).mark [m.pos, count + 1]).goTo t (← m.operand t 0)
  else (← m.note [start, count, m.pos]).advance t 2

/-- What follows a lazy repetition has failed: do another iteration if there may be one and the
last one was not empty. -/
def iterateMoreCounted (t : Task) (m : Machine) : Except Breakdown Machine := do
  let m := m.unnote 3
  let start ← m.trail.above 0
  let count ← m.trail.above 1
  let pos ← m.trail.above 2
  if count < (← m.operand t 1) && pos != start then
    let m ← (← m.mark [pos, count + 1]).noteUndo [start]
    (m.movedTo pos).goTo t (← m.operand t 0)
  else (← m.mark [start, count]).fail t

/-- Undo a counted iteration of a lazy repetition. -/
def undoLazilyCounted (t : Task) (m : Machine) : Except Breakdown Machine := do
  let m := (m.unnote 1).unmark 2
  let count ← m.marks.above 1
  (← m.mark [← m.trail.above 0, count - 1]).fail t

/-! ## Groups and conditions -/

/-- Take up a mark: the group matches from there to here. A group whose match is to be taken
back must have one. -/
def capture (t : Task) (m : Machine) : Except Breakdown Machine := do
  let index ← m.operand t 0
  let freed ← m.operand t 1
  let balanced ← if freed = -1 then pure true else (m.captures.get freed).isMatched
  if !balanced then m.fail t
  else
    let m := m.unmark 1
    let start ← m.marks.above 0
    let captures ←
      if freed = -1 then pure (m.captures.add index start m.pos)
      else m.captures.transfer index freed start m.pos
    (← (m.withCaptures captures).note [start]).advance t 2

/-- Undo the match of a group. -/
def release (t : Task) (m : Machine) : Except Breakdown Machine := do
  let m := m.unnote 1
  let m ← m.mark [← m.trail.above 0]
  let captures ← m.captures.undo
  let twice : Bool := (← m.operand t 0) != -1 && (← m.operand t 1) != -1
  let captures ← if twice then captures.undo else pure captures
  (m.withCaptures captures).fail t

/-- Take up a mark and go back to it. -/
def goToMark (t : Task) (m : Machine) : Except Breakdown Machine := do
  let m := m.unmark 1
  let pos ← m.marks.above 0
  (← (m.movedTo pos).note [pos]).advance t 0

/-- Note the height of the trail and how many matches groups have. -/
def enclose (t : Task) (m : Machine) : Except Breakdown Machine := do
  (← (← m.mark [m.trail.height, m.captures.order.length]).note []).advance t 0

/-- Forget what was noted since a part was enclosed, and what groups have matched, and fail. -/
def refuse (t : Task) (m : Machine) : Except Breakdown Machine := do
  let m := m.unmark 2
  let height ← m.marks.above 0
  let captures ← m.captures.undoTo (← m.marks.above 1)
  ((m.cutTo height).withCaptures captures).fail t

/-- Forget what was noted since a part was enclosed, and go on. -/
def commit (t : Task) (m : Machine) : Except Breakdown Machine := do
  let m := m.unmark 2
  let height ← m.marks.above 0
  let steps ← m.marks.above 1
  (← (m.cutTo height).note [steps]).advance t 0

/-- Undo what groups have matched in a part that was enclosed. -/
def uncommit (t : Task) (m : Machine) : Except Breakdown Machine := do
  let m := m.unnote 1
  let captures ← m.captures.undoTo (← m.trail.above 0)
  (m.withCaptures captures).fail t

/-! ## The step -/

/-- Carry out an instruction that is come to for the first time. -/
def stepForward (t : Task) (m : Machine) : Except Breakdown Machine := do
  match m.instruction.operation with
  | .timesOne | .timesOther | .timesIn => m.readTimes t
  | .manyOne | .manyOther | .manyIn => m.readMany t
  | .fewOne | .fewOther | .fewIn => m.readFew t
  | .one | .other | .isIn => m.readOne t
  | .text => m.readText t
  | .reference => m.readReference t
  | .nothing => m.fail t
  | .branch => (← m.note [m.pos]).advance t 1
  | .again => m.iterate t
  | .lazyAgain => m.iterateLazily t
  | .countNowhere => (← (← m.mark [-1, ← m.operand t 0]).note []).advance t 1
  | .countHere => (← (← m.mark [m.pos, ← m.operand t 0]).note []).advance t 1
  | .againCounted => m.iterateCounted t
  | .lazyAgainCounted => m.iterateLazilyCounted t
  | .markNowhere => (← (← m.mark [-1]).note []).advance t 0
  | .markHere => (← (← m.mark [m.pos]).note []).advance t 0
  | .capture => m.capture t
  | .goToMark => m.goToMark t
  | .enclose => m.enclose t
  | .refuse => m.refuse t
  | .commit => m.commit t
  | .ifMatched =>
    if ← (m.captures.get (← m.operand t 0)).isMatched then m.advance t 1 else m.fail t
  | .jump => m.goTo t (← m.operand t 0)
  | .cut => throw .unknownInstruction
  | .stop => return m
  | anchor => if ← t.anchorHolds m.pos anchor then m.advance t 0 else m.fail t

/-- Carry out an instruction that is gone back to. -/
def stepBack (t : Task) (m : Machine) : Except Breakdown Machine := do
  match m.instruction.operation with
  | .manyOne | .manyOther | .manyIn => m.readFewer t
  | .fewOne | .fewOther | .fewIn => m.readMore t
  | .branch =>
    let m := m.unnote 1
    (m.movedTo (← m.trail.above 0)).goTo t (← m.operand t 0)
  | .again => m.leave t
  | .lazyAgain => m.iterateMore t
  | .countNowhere | .countHere => (m.unmark 2).fail t
  | .againCounted => m.leaveCounted t
  | .lazyAgainCounted => m.iterateMoreCounted t
  | .markNowhere | .markHere => (m.unmark 1).fail t
  | .capture => m.release t
  | .goToMark => m.remark t
  | .enclose => (m.unmark 2).fail t
  | .commit => m.uncommit t
  | _ => throw .unknownInstruction

/-- Carry out an instruction that is gone back to for good. -/
def stepUndo (t : Task) (m : Machine) : Except Breakdown Machine := do
  match m.instruction.operation with
  | .again => m.remark t
  | .lazyAgain => m.undoLazily t
  | .againCounted => m.remarkCounted t
  | .lazyAgainCounted => m.undoLazilyCounted t
  | _ => throw .unknownInstruction

/-- Carry out the instruction. -/
def step (t : Task) (m : Machine) : Except Breakdown Machine :=
  match m.instruction.entry with
  | .forward => m.stepForward t
  | .back => m.stepBack t
  | .undo => m.stepUndo t

/-- Whether the end of the program is reached. -/
def isDone (m : Machine) : Bool :=
  m.instruction.operation = .stop && m.instruction.entry = .forward

/-- Run a machine to the end of its program. -/
def run (t : Task) : (fuel : Nat) → Machine → Except Breakdown Machine
  | 0, _ => .error .outOfRange
  | fuel + 1, m => if m.isDone then .ok m else do run t fuel (← m.step t)

/-- A machine in front of a program. -/
def ofProgram (p : Program) : Machine :=
  ⟨0, 0, ⟨.stop, .forward, false, false⟩, .ofRoom (max 32 (8 * p.recorded)),
    .ofRoom (max 16 (8 * p.recorded)), .none⟩

/-- Run a machine from the start of its program at a place of the text. What groups have matched
stays; nothing can be gone back to. -/
def runAt (t : Task) (fuel : Nat) (m : Machine) (pos : Int) : Except Breakdown Machine := do
  let m := { m with
    pos := pos
    trail := m.trail.clear
    marks := m.marks.clear
    captures := { m.captures with order := [] } }
  run t fuel (← m.goTo t 0)

/-- The length of the first match of the whole program, if there is one. -/
def matched? (m : Machine) : Option Int :=
  let whole := m.captures.get 0
  if whole.count = 0 then none else whole.numbers[1]?

end Machine

end CodeViewer.Pattern
