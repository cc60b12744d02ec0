import CodeViewer.Unicode.Cluster
import CodeViewer.Unicode.Property

/-!
# Clusters of characters

A text is read cluster by cluster: a character with the marks on it, a syllable put together
from its sounds, a pair of letters that stands for a flag, several pictographs joined to one.
Whether a character belongs to the cluster before it depends on the part it plays there and on
that of the characters of that cluster.
-/

namespace CodeViewer.Cluster

/-- The part a character plays in a cluster. -/
inductive Role where
  | other
  | carriageReturn
  | lineFeed
  | control
  | extender
  | joiner
  | spacingMark
  | prepender
  /-- Half of a flag. -/
  | regional
  | pictograph
  /-- An initial sound of a syllable. -/
  | initial
  /-- A vowel of a syllable. -/
  | vowel
  /-- A final sound of a syllable. -/
  | final
  /-- A syllable without a final sound. -/
  | openSyllable
  /-- A syllable with a final sound. -/
  | closedSyllable
  deriving DecidableEq, Repr

/-- The part of a character outside ASCII. -/
def Role.ofCode (c : Char) : Role :=
  let n := c.toNat
  if n == 0x200d then .joiner
  else if Unicode.isNonspacingMark c || Unicode.isEnclosingMark c
      || Unicode.otherExtenders.contains n then .extender
  else if (0x1100 ≤ n && n ≤ 0x115f) || (0xa960 ≤ n && n ≤ 0xa97c) then .initial
  else if (0x1160 ≤ n && n ≤ 0x11a7) || (0xd7b0 ≤ n && n ≤ 0xd7c6) then .vowel
  else if (0x11a8 ≤ n && n ≤ 0x11ff) || (0xd7cb ≤ n && n ≤ 0xd7fb) then .final
  else if 0xac00 ≤ n && n ≤ 0xd7a3 then
    if (n - 0xac00) % 28 = 0 then .openSyllable else .closedSyllable
  else if 0x1f1e6 ≤ n && n ≤ 0x1f1ff then .regional
  else if Unicode.spacingMarks.contains n then .spacingMark
  else if Unicode.prependers.contains n then .prepender
  else if Unicode.unjoinables.contains n then .control
  else if Unicode.pictographs.contains n then .pictograph
  else .other

/-- The part of a character. -/
def Role.ofChar (c : Char) : Role :=
  if c == '\r' then .carriageReturn
  else if c == '\n' then .lineFeed
  else if c.toNat < 0x20 || c.toNat == 0x7f then .control
  else if c.toNat < 0x80 then .other
  else Role.ofCode c

/-- How far a cluster has come. -/
structure State where
  /-- The part of its last character. -/
  last : Role
  /-- It ends in a pictograph with what extends it. -/
  pictured : Bool
  /-- It ends in such a pictograph and a joiner behind it. -/
  joinable : Bool
  /-- It ends in the first half of a flag. -/
  halfFlag : Bool
  deriving Repr

/-- A cluster that starts with a character. -/
def State.start (r : Role) : State := ⟨r, r == .pictograph, false, r == .regional⟩

/-- A cluster with one more character. -/
def State.extend (s : State) (r : Role) : State :=
  { last := r
    pictured := r == .pictograph || (r == .extender && s.pictured)
    joinable := r == .joiner && s.pictured
    halfFlag := r == .regional && !s.halfFlag }

/-- Whether the next character belongs to the cluster. -/
def State.accepts (s : State) (r : Role) : Bool :=
  match s.last, r with
  | .carriageReturn, .lineFeed => true
  | .carriageReturn, _ => false
  | .lineFeed, _ => false
  | .control, _ => false
  | _, .carriageReturn => false
  | _, .lineFeed => false
  | _, .control => false
  | _, .extender => true
  | _, .joiner => true
  | _, .spacingMark => true
  | .prepender, _ => true
  | .initial, r => r == .initial || r == .vowel || r == .openSyllable || r == .closedSyllable
  | .openSyllable, r => r == .vowel || r == .final
  | .vowel, r => r == .vowel || r == .final
  | .closedSyllable, r => r == .final
  | .final, r => r == .final
  | .joiner, .pictograph => s.joinable
  | .regional, .regional => s.halfFlag
  | _, _ => false

/-- The clusters of a text behind the cluster that is being read, whose characters are given
latest first. -/
def splitFrom (s : State) (current : List Char) : List Char → List (List Char)
  | [] => [current.reverse]
  | c :: rest =>
    let r := Role.ofChar c
    if s.accepts r then splitFrom (s.extend r) (c :: current) rest
    else current.reverse :: splitFrom (State.start r) [c] rest

/-- The clusters of a text. -/
def split : List Char → List (List Char)
  | [] => []
  | c :: rest => splitFrom (State.start (Role.ofChar c)) [c] rest

end CodeViewer.Cluster
