import CodeViewer.Pattern.Error
import CodeViewer.Pattern.Node

/-!
# Texts and sets that a pattern shares

Texts of one pattern that look the same are the same text, and likewise sets: the one the
matcher meets first stands for all of them. A code point that is no character looks like U+FFFD,
so `x\ud800|y|x\ufffd` stands for a text nobody can write, twice.
-/

namespace CodeViewer.Pattern

/-- The code point a code point looks like. -/
def shownNat (code : Nat) : Nat := (shownCode code).toNat

/-- What a layer looks like. -/
def Layer.shown (s : Layer) : Layer :=
  { s with ranges := s.ranges.map (fun r ↦ (shownNat r.1, shownNat r.2)) }

/-- What a set looks like. -/
def CharSet.shown (s : CharSet) : CharSet := ⟨s.base.shown, s.minus.map Layer.shown⟩

/-- The texts and sets met so far, by what they look like. -/
structure Shared where
  texts : List (List Nat × List Nat)
  sets : List (CharSet × CharSet)
  deriving Repr

/-- The text that stands for a text. -/
def Shared.text (s : Shared) (codes : List Nat) : List Nat × Shared :=
  let look := codes.map shownNat
  match s.texts.lookup look with
  | some first => (first, s)
  | none => (codes, { s with texts := (look, codes) :: s.texts })

/-- The test that stands for a test. -/
def Shared.test (s : Shared) : CharTest → CharTest × Shared
  | .isIn set =>
    let look := set.shown
    match s.sets.lookup look with
    | some first => (.isIn first, s)
    | none => (.isIn set, { s with sets := (look, set) :: s.sets })
  | test => (test, s)

/-- Replace the texts and sets of a tree by those that stand for them. Looking back the matcher
meets the parts of a sequence from right to left. -/
def Node.share (back : Bool) : Node → Shared → Node × Shared
  | .text codes folded, s =>
    let (codes, s) := s.text codes
    (.text codes folded, s)
  | .char test folded, s =>
    let (test, s) := s.test test
    (.char test folded, s)
  | .chars times test folded, s =>
    let (test, s) := s.test test
    (.chars times test folded, s)
  | .seq first second, s =>
    if back then
      let (second, s) := second.share back s
      let (first, s) := first.share back s
      (.seq first second, s)
    else
      let (first, s) := first.share back s
      let (second, s) := second.share back s
      (.seq first second, s)
  | .alt first second, s =>
    let (first, s) := first.share back s
    let (second, s) := second.share back s
    (.alt first second, s)
  | .group index body, s =>
    let (body, s) := body.share back s
    (.group index body, s)
  | .look ahead negated body, s =>
    let (body, s) := body.share (!ahead) s
    (.look ahead negated body, s)
  | .loop times body, s =>
    let (body, s) := body.share back s
    (.loop times body, s)
  | .atomic body, s =>
    let (body, s) := body.share back s
    (.atomic body, s)
  | .ifMatched index yes no, s =>
    let (yes, s) := yes.share back s
    let (no, s) := no.share back s
    (.ifMatched index yes no, s)
  | .ifMatches condition yes no, s =>
    let (condition, s) := condition.share back s
    let (yes, s) := yes.share back s
    let (no, s) := no.share back s
    (.ifMatches condition yes no, s)
  | .balance index freed body, s =>
    let (body, s) := body.share back s
    (.balance index freed body, s)
  | n, s => (n, s)

/-- A tree in which texts and sets that look the same are the same. -/
def Node.shared (n : Node) : Node := (n.share false ⟨[], []⟩).1

end CodeViewer.Pattern
