import CodeViewer.Pattern.CharSet

/-!
# Sets where case is ignored

Where case is ignored the lower-case form of a character is looked up, so a set has to hold the
lower-case forms of what it names. A single code point is replaced by its lower-case form. A
longer range stays and is joined by the lower-case ranges of a table, which knows the letters
of the scripts with simple case rules only.
-/

namespace CodeViewer.Pattern

/-- How the code points of a range go to lower case. -/
inductive LowerRule where
  /-- All of them to one code point. -/
  | fixed (code : Nat)
  /-- Each to the code point so much further on. -/
  | shift (distance : Int)
  /-- Even ones to the next code point; odd ones are lower case. -/
  | toOdd
  /-- Odd ones to the next code point; even ones are lower case. -/
  | toEven
  deriving DecidableEq, Repr

/-- The lower-case form of a code point under a rule. -/
def LowerRule.apply : LowerRule → Nat → Nat
  | .fixed code, _ => code
  | .shift distance, n => (n + distance).toNat
  | .toOdd, n => if n % 2 = 0 then n + 1 else n
  | .toEven, n => if n % 2 = 0 then n else n + 1

/-- A range of code points and the rule that takes it to lower case. -/
structure CasedRange where
  first : Nat
  last : Nat
  rule : LowerRule
  deriving Repr

/-- The ranges with a lower case, in ascending order. -/
def casedRanges : List CasedRange := [
  ⟨0x41, 0x5a, .shift 32⟩, ⟨0xc0, 0xde, .shift 32⟩, ⟨0x100, 0x12e, .toOdd⟩,
  ⟨0x130, 0x130, .fixed 0x69⟩, ⟨0x132, 0x136, .toOdd⟩, ⟨0x139, 0x147, .toEven⟩,
  ⟨0x14a, 0x176, .toOdd⟩, ⟨0x178, 0x178, .fixed 0xff⟩, ⟨0x179, 0x17d, .toEven⟩,
  ⟨0x181, 0x181, .fixed 0x253⟩, ⟨0x182, 0x184, .toOdd⟩, ⟨0x186, 0x186, .fixed 0x254⟩,
  ⟨0x187, 0x187, .fixed 0x188⟩, ⟨0x189, 0x18a, .shift 205⟩, ⟨0x18b, 0x18b, .fixed 0x18c⟩,
  ⟨0x18e, 0x18e, .fixed 0x1dd⟩, ⟨0x18f, 0x18f, .fixed 0x259⟩, ⟨0x190, 0x190, .fixed 0x25b⟩,
  ⟨0x191, 0x191, .fixed 0x192⟩, ⟨0x193, 0x193, .fixed 0x260⟩, ⟨0x194, 0x194, .fixed 0x263⟩,
  ⟨0x196, 0x196, .fixed 0x269⟩, ⟨0x197, 0x197, .fixed 0x268⟩, ⟨0x198, 0x198, .fixed 0x199⟩,
  ⟨0x19c, 0x19c, .fixed 0x26f⟩, ⟨0x19d, 0x19d, .fixed 0x272⟩, ⟨0x19f, 0x19f, .fixed 0x275⟩,
  ⟨0x1a0, 0x1a4, .toOdd⟩, ⟨0x1a7, 0x1a7, .fixed 0x1a8⟩, ⟨0x1a9, 0x1a9, .fixed 0x283⟩,
  ⟨0x1ac, 0x1ac, .fixed 0x1ad⟩, ⟨0x1ae, 0x1ae, .fixed 0x288⟩, ⟨0x1af, 0x1af, .fixed 0x1b0⟩,
  ⟨0x1b1, 0x1b2, .shift 217⟩, ⟨0x1b3, 0x1b5, .toEven⟩, ⟨0x1b7, 0x1b7, .fixed 0x292⟩,
  ⟨0x1b8, 0x1b8, .fixed 0x1b9⟩, ⟨0x1bc, 0x1bc, .fixed 0x1bd⟩, ⟨0x1c4, 0x1c5, .fixed 0x1c6⟩,
  ⟨0x1c7, 0x1c8, .fixed 0x1c9⟩, ⟨0x1ca, 0x1cb, .fixed 0x1cc⟩, ⟨0x1cd, 0x1db, .toEven⟩,
  ⟨0x1de, 0x1ee, .toOdd⟩, ⟨0x1f1, 0x1f2, .fixed 0x1f3⟩, ⟨0x1f4, 0x1f4, .fixed 0x1f5⟩,
  ⟨0x1fa, 0x216, .toOdd⟩, ⟨0x386, 0x386, .fixed 0x3ac⟩, ⟨0x388, 0x38a, .shift 37⟩,
  ⟨0x38c, 0x38c, .fixed 0x3cc⟩, ⟨0x38e, 0x38f, .shift 63⟩, ⟨0x391, 0x3ab, .shift 32⟩,
  ⟨0x3e2, 0x3ee, .toOdd⟩, ⟨0x401, 0x40f, .shift 80⟩, ⟨0x410, 0x42f, .shift 32⟩,
  ⟨0x460, 0x480, .toOdd⟩, ⟨0x490, 0x4be, .toOdd⟩, ⟨0x4c1, 0x4c3, .toEven⟩,
  ⟨0x4c7, 0x4c7, .fixed 0x4c8⟩, ⟨0x4cb, 0x4cb, .fixed 0x4cc⟩, ⟨0x4d0, 0x4ea, .toOdd⟩,
  ⟨0x4ee, 0x4f4, .toOdd⟩, ⟨0x4f8, 0x4f8, .fixed 0x4f9⟩, ⟨0x531, 0x556, .shift 48⟩,
  ⟨0x10a0, 0x10c5, .shift 48⟩, ⟨0x1e00, 0x1ef8, .toOdd⟩, ⟨0x1f08, 0x1f0f, .shift (-8)⟩,
  ⟨0x1f18, 0x1f1f, .shift (-8)⟩, ⟨0x1f28, 0x1f2f, .shift (-8)⟩, ⟨0x1f38, 0x1f3f, .shift (-8)⟩,
  ⟨0x1f48, 0x1f4d, .shift (-8)⟩, ⟨0x1f59, 0x1f59, .fixed 0x1f51⟩, ⟨0x1f5b, 0x1f5b, .fixed 0x1f53⟩,
  ⟨0x1f5d, 0x1f5d, .fixed 0x1f55⟩, ⟨0x1f5f, 0x1f5f, .fixed 0x1f57⟩, ⟨0x1f68, 0x1f6f, .shift (-8)⟩,
  ⟨0x1f88, 0x1f8f, .shift (-8)⟩, ⟨0x1f98, 0x1f9f, .shift (-8)⟩, ⟨0x1fa8, 0x1faf, .shift (-8)⟩,
  ⟨0x1fb8, 0x1fb9, .shift (-8)⟩, ⟨0x1fba, 0x1fbb, .shift (-74)⟩, ⟨0x1fbc, 0x1fbc, .fixed 0x1fb3⟩,
  ⟨0x1fc8, 0x1fcb, .shift (-86)⟩, ⟨0x1fcc, 0x1fcc, .fixed 0x1fc3⟩, ⟨0x1fd8, 0x1fd9, .shift (-8)⟩,
  ⟨0x1fda, 0x1fdb, .shift (-100)⟩, ⟨0x1fe8, 0x1fe9, .shift (-8)⟩, ⟨0x1fea, 0x1feb, .shift (-112)⟩,
  ⟨0x1fec, 0x1fec, .fixed 0x1fe5⟩, ⟨0x1ff8, 0x1ff9, .shift (-128)⟩,
  ⟨0x1ffa, 0x1ffb, .shift (-126)⟩, ⟨0x1ffc, 0x1ffc, .fixed 0x1ff3⟩, ⟨0x2160, 0x216f, .shift 16⟩,
  ⟨0x24b6, 0x24d0, .shift 26⟩, ⟨0xff21, 0xff3a, .shift 32⟩]

/-- The lower-case counterpart of the part of a cased range that lies between `first` and
`last`, if it reaches out of them. -/
def CasedRange.counterpart? (r : CasedRange) (first last : Nat) : Option (Nat × Nat) :=
  if r.last < first || last < r.first then none
  else
    let lowest := r.rule.apply (max first r.first)
    let highest := r.rule.apply (min last r.last)
    if lowest < first || last < highest then some (lowest, highest) else none

/-- The lower-case form of a code point; what is no character has none of its own. -/
def lowerCode (code : Nat) : Nat :=
  if code.isValidChar then (Unicode.toLower (Char.ofNat code)).toNat else code

/-- The ranges that stand for a range where case is ignored. -/
def lowerRanges (first last : Nat) : List (Nat × Nat) :=
  if first = last then [(lowerCode first, lowerCode first)]
  else (first, last) :: casedRanges.filterMap (·.counterpart? first last)

/-- The layer where case is ignored. -/
def Layer.lower (s : Layer) : Layer :=
  { s with ranges := insertRanges [] (s.ranges.flatMap (fun r ↦ lowerRanges r.1 r.2)) }

end CodeViewer.Pattern
