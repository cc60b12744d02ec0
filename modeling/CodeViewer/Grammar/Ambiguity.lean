import CodeViewer.Grammar.Compiled

/-!
# Contradicting rules

Two rules that apply in one mode and begin with the same pattern must agree on their class.
Modes inherit the rules of the modes around them, so every mode a scan can enter is followed:
starting from the top level, each mode is entered from each combination of rules it can be
entered from. A combination is a mode and the set of rules that apply in it; there are finitely
many, and none is followed twice.
-/

namespace CodeViewer

/-- The rules of a list without those whose number has been seen, keeping the first of each. -/
def firstOccurrences : (seen : List Nat) → List CompiledRule → List CompiledRule
  | _, [] => []
  | seen, r :: rs =>
    if seen.contains r.id then firstOccurrences seen rs
    else r :: firstOccurrences (r.id :: seen) rs

/-- The rules of a list, keeping the first of each. -/
def uniqueRules (rs : List CompiledRule) : List CompiledRule := firstOccurrences [] rs

/-- A set of rules as a number: one bit for each number of a rule. -/
def ruleSet (rs : List CompiledRule) : Nat := rs.foldl (fun bits r ↦ bits ||| 1 <<< r.id) 0

/-- Two rules that begin with the same pattern and differ in class: the later one and the last
one before it. -/
structure Contradiction where
  earlier : RuleHead
  later : RuleHead
  deriving Repr

/-- Find the first rule that differs in class from the last rule before it that begins with the
same pattern. `passed` holds the rules before, latest first. -/
def contradiction? : (passed : List CompiledRule) → List CompiledRule → Option Contradiction
  | _, [] => none
  | passed, r :: rs =>
    match passed.find? (fun p ↦ p.head.source == r.head.source) with
    | some p =>
      if p.head.cls == r.head.cls then contradiction? (r :: passed) rs
      else some ⟨p.head, r.head⟩
    | none => contradiction? (r :: passed) rs

/-- The rules that apply in the mode of `r` when it is entered where `visible` apply. -/
def innerRules (r : CompiledRule) (visible : List CompiledRule) : List CompiledRule :=
  if r.modeSpec.noInherit then r.contains else r.contains ++ visible

/-- Follow the modes on `pending`, each given by the number of its rule and the rules that
apply in it, and the modes entered from them; `seen` holds the combinations already followed.
Each combination adds at most one pending mode for each rule, which bounds `fuel`. -/
def exploreModes : (fuel : Nat) → (pending : List (Nat × List CompiledRule)) →
    (seen : List (Nat × Nat)) → Option Contradiction
  | 0, _, _ => none
  | _ + 1, [], _ => none
  | fuel + 1, (id, rules) :: pending, seen =>
    let visible := uniqueRules rules
    let key := (id, ruleSet visible)
    if seen.contains key then exploreModes fuel pending seen
    else
      match contradiction? [] visible with
      | some c => some c
      | none =>
        let entered := (visible.filter (·.opensMode)).map (fun r ↦ (r.id, innerRules r visible))
        exploreModes fuel (entered ++ pending) (key :: seen)

/-- The number of modes that can be pending in all, for `count` rules: with the top level there
are `count + 1` modes and `2 ^ count` sets of rules, each followed once and adding at most
`count` more. -/
def explorationBound (count : Nat) : Nat := (count + 1) * Nat.pow 2 count * count + 2

/-- Find a contradiction between two rules that apply in one mode of a scan. -/
def findContradiction (rules : List CompiledRule) : Option Contradiction :=
  exploreModes (explorationBound (CompiledRule.flattenAll rules).length) [(0, rules)] []

end CodeViewer
