import CodeViewer.Pattern.Tape

/-!
# What groups have matched

The matches of a group are kept in the order in which they were made, each as two numbers: its
start and its length. Taking a match back adds an entry too, so that this can be undone: two
negative numbers, which name the place of the match that is then the latest one.
-/

namespace CodeViewer.Pattern

/-- The matches of one group: numbers, two for each match, of which `count` pairs are in use. -/
structure Captured where
  numbers : Array Int
  count : Nat
  deriving Repr

namespace Captured

/-- No match. -/
def none : Captured := ⟨#[0, 0], 0⟩

/-- Add an entry. The room grows to four times the number of entries. -/
def add (c : Captured) (start length : Int) : Captured :=
  let kept := c.numbers.extract 0 (2 * c.count)
  let numbers : Array Int :=
    if 2 * c.count + 2 ≤ c.numbers.size then c.numbers
    else kept ++ Array.replicate (6 * c.count) 0
  ⟨(numbers.setIfInBounds (2 * c.count) start).setIfInBounds (2 * c.count + 1) length,
    c.count + 1⟩

/-- Undo the latest entry. -/
def remove (c : Captured) : Captured := { c with count := c.count - 1 }

/-- The entry that says that no match is left. -/
def nothingLeft : Int := -2

/-- Whether the group has a match that was not taken back. -/
def isMatched (c : Captured) : Except Breakdown Bool :=
  if c.count = 0 then .ok false
  else (elementAt c.numbers (2 * c.count - 1)).map (· != nothingLeft)

/-- The number an entry holds or, if it is negative, names. -/
def follow (c : Captured) (i : Int) : Except Breakdown Int := do
  let n ← elementAt c.numbers i
  if 0 ≤ n then return n else elementAt c.numbers (-3 - n)

/-- The start of the latest match. -/
def start (c : Captured) : Except Breakdown Int := c.follow (2 * c.count - 2)

/-- The length of the latest match. -/
def length (c : Captured) : Except Breakdown Int := c.follow (2 * c.count - 1)

/-- Take the latest match back. -/
def takeBack (c : Captured) : Except Breakdown Captured := do
  let latest : Int := 2 * c.count - 2
  let n ← elementAt c.numbers latest
  let target := (if n < 0 then -3 - n else latest) - 2
  if 0 ≤ target then
    let before ← elementAt c.numbers target
    if before < 0 then
      let length ← elementAt c.numbers (target + 1)
      return c.add before length
  return c.add (-3 - target) (-4 - target)

end Captured

/-- The groups of a search: what each has matched, and the groups in the order in which they
did, latest first. -/
structure Captures where
  groups : List (Int × Captured)
  order : List Int
  deriving Repr

namespace Captures

/-- No group has matched. -/
def none : Captures := ⟨[], []⟩

/-- What a group has matched. -/
def get (c : Captures) (index : Int) : Captured := (c.groups.lookup index).getD .none

/-- Set what a group has matched. -/
def set (c : Captures) (index : Int) (entries : Captured) : Captures :=
  { c with groups := (index, entries) :: c.groups.filter (·.1 != index) }

/-- Record an entry of a group. -/
def record (c : Captures) (index start length : Int) : Captures :=
  { c.set index ((c.get index).add start length) with order := index :: c.order }

/-- Record a match of a group between two places. -/
def add (c : Captures) (index start stop : Int) : Captures :=
  c.record index (min start stop) (max start stop - min start stop)

/-- Undo what was recorded last. -/
def undo (c : Captures) : Except Breakdown Captures :=
  match c.order with
  | [] => .error .outOfRange
  | index :: rest => .ok { c.set index (c.get index).remove with order := rest }

/-- Undo what was recorded in the last so many steps. -/
def undoTimes (c : Captures) : Nat → Except Breakdown Captures
  | 0 => .ok c
  | times + 1 => do (← c.undo).undoTimes times

/-- Undo what was recorded until so many steps are left. -/
def undoTo (c : Captures) (steps : Int) : Except Breakdown Captures :=
  if steps < 0 || c.order.length < steps then .error .outOfRange
  else c.undoTimes (c.order.length - steps.toNat)

/-- Take back the latest match of the group `freed`. The group `index`, if there is one, matches
what lies between it and the match from `start` to `stop`, or where the two overlap. If the match
lies in front, what lies between has a negative length. -/
def transfer (c : Captures) (index freed start stop : Int) : Except Breakdown Captures := do
  let first := min start stop
  let last := max start stop
  let start ← (c.get freed).start
  let stop := start + (← (c.get freed).length)
  let entries ← (c.get freed).takeBack
  let c := c.set freed entries
  let c := { c with order := freed :: c.order }
  if index = -1 then return c
  else if stop ≤ first then return c.record index stop (first - stop)
  else if last ≤ start then return c.record index start (last - start)
  else return c.record index (max first start) (min last stop - max first start)

end Captures

end CodeViewer.Pattern
