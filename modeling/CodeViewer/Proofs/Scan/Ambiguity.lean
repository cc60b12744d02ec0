import CodeViewer.Proofs.Grammar.Exploration
import CodeViewer.Proofs.Scan.ModeStack

/-!
# Stacks of modes without contradictions

A grammar is refused for a contradiction exactly if a scan can come to a mode in which two rules
contradict each other. The search for contradictions forgets the order of the rules and how often
they apply; the stacks of a scan do not, and nest without a bound.
-/

namespace CodeViewer

/-- A mode that can be entered in a grammar: the one with this number, with the rules that apply
in it on some way to it. -/
structure Mode.EnteredAs (m : Mode) (g : CompiledGrammar) (id : Nat) : Prop where
  mode : (id = 0 ∧ m.spec = g.root) ∨ ∃ r ∈ g.allRules, r.id = id ∧ m.spec = r.modeSpec
  visible : Entered g.rules id m.visible

namespace ModeStack

/-- The stacks that come about at the top level by entering modes of rules that apply. -/
inductive Pushed (g : CompiledGrammar) (maxDepth : Int) : ModeStack → Prop
  | start : Pushed g maxDepth (ofGrammar g maxDepth)
  | push {s s' : ModeStack} {r : CompiledRule} {offset : Int} :
      Pushed g maxDepth s → r ∈ s.top.visible → r.opensMode = true →
        s.push r offset = .ok s' → Pushed g maxDepth s'

variable {g : CompiledGrammar} {maxDepth : Int} {s : ModeStack}

/-- The innermost mode of a stack is one the search comes to. -/
theorem Pushed.enteredAs (h : Pushed g maxDepth s) : ∃ id, s.top.EnteredAs g id := by
  induction h with
  | start => exact ⟨0, .inl ⟨rfl, rfl⟩, .top⟩
  | @push s s' r offset _ hr hopens hpush ih =>
    obtain ⟨id, hentered⟩ := ih
    obtain ⟨-, rfl⟩ := push_eq_ok.mp hpush
    have hrule : r ∈ g.allRules := hentered.visible.isEntrance.within r hr
    refine ⟨r.id, .inr ⟨r, hrule, rfl, ?_⟩, ?_⟩
    · rw [top_enter, spec_inner]
    · rw [top_enter, visible_inner]
      exact hentered.visible.inner hr hopens

/-- What is left after closing modes came about by entering the others. -/
theorem Pushed.close (h : Pushed g maxDepth s) (count : Nat) :
    Pushed g maxDepth (s.close count) := by
  induction h generalizing count with
  | start =>
    have hnone : (ofGrammar g maxDepth).close count = ofGrammar g maxDepth := by
      simp [ModeStack.close, ofGrammar]
    rw [hnone]
    exact .start
  | @push s s' r offset hs hr hopens hpush ih =>
    cases count with
    | zero => exact .push hs hr hopens hpush
    | succ count =>
      obtain ⟨-, rfl⟩ := push_eq_ok.mp hpush
      exact ih count

end ModeStack

open ModeStack

/-- A mode the search comes to is the innermost mode of a stack, if stacks may be deep enough. -/
theorem Entered.exists_pushed {g : CompiledGrammar} {id : Nat} {visible : List CompiledRule}
    (h : Entered g.rules id visible) :
    ∃ depth, ∀ maxDepth, depth ≤ effectiveLimit maxDepth → ∃ s, Pushed g maxDepth s ∧
      s.limit = effectiveLimit maxDepth ∧ s.depth = depth ∧ s.top.visible = visible := by
  induction h with
  | top => exact ⟨0, fun maxDepth _ ↦ ⟨ofGrammar g maxDepth, .start, rfl, rfl, rfl⟩⟩
  | @inner id visible r _ hr hopens ih =>
    obtain ⟨depth, ih⟩ := ih
    refine ⟨depth + 1, fun maxDepth hle ↦ ?_⟩
    obtain ⟨s, hpushed, hlimit, rfl, rfl⟩ := ih maxDepth (Nat.le_of_succ_le hle)
    have hpush : s.push r 0 = .ok (s.enter r) := push_eq_ok.mpr ⟨by omega, rfl⟩
    refine ⟨s.enter r, hpushed.push hr hopens hpush, ?_, depth_enter s r, ?_⟩
    · rw [limit_enter, hlimit]
    · rw [top_enter, visible_inner]

/-- Rules are accepted if the search finds no contradiction. -/
theorem checkContradictions_eq_ok {grammar : String} {rules : List CompiledRule} :
    checkContradictions grammar rules = .ok () ↔ findContradiction rules = none := by
  unfold checkContradictions
  split
  · next hnone => simp [hnone]
  · next c hsome => simp [hsome]

/-- The check for contradictions is exact: rules are accepted if and only if the rules that apply
in the innermost mode agree, for every stack that comes about by entering modes, however deep. -/
theorem checkContradictions_eq_ok_iff {grammar path : String} {top : Bool} {index next n : Nat}
    {rs : List Rule} {g : CompiledGrammar}
    (h : compileRules grammar top path index next rs = .ok (g.rules, n)) :
    checkContradictions grammar g.rules = .ok () ↔
      ∀ maxDepth s, Pushed g maxDepth s → Agree s.top.visible := by
  rw [checkContradictions_eq_ok, findContradiction_eq_none_iff (compileRules_numbered h)]
  constructor
  · intro hagree maxDepth s hpushed
    obtain ⟨id, hentered⟩ := hpushed.enteredAs
    exact hagree id _ hentered.visible
  · intro hagree id visible hentered
    obtain ⟨depth, hstacks⟩ := hentered.exists_pushed
    have hdeep : depth ≤ effectiveLimit (depth + 1) := by
      unfold effectiveLimit
      split <;> omega
    obtain ⟨s, hpushed, -, -, rfl⟩ := hstacks _ hdeep
    exact hagree _ s hpushed

/-- A grammar with two rules that contradict each other but never apply together, since the block
around one refuses what applies outside. -/
def separateBlocks : Grammar :=
  { name := "separate"
    rules :=
      [.mk { cls := "outer", literal := "x" } none,
       .mk { cls := "block", literal := "<", finish := ">", noInherit := true }
         (some [.mk { cls := "inner", literal := "x" } none])] }

/-- Rules that contradict each other are accepted if no mode has both. -/
theorem checkContradictions_eq_ok_iff_separateBlocks :
    ∃ g n, compileRules "separate" true "rules" 0 1 separateBlocks.rules = .ok (g.rules, n) ∧
      ¬ Agree g.allRules ∧ ∀ maxDepth s, Pushed g maxDepth s → Agree s.top.visible := by
  obtain ⟨g, hg, hdiffer⟩ := exists_compiled separateBlocks
    (fun g ↦ g.allRules.any fun a ↦ g.allRules.any fun b ↦
      a.head.source == b.head.source && a.head.cls != b.head.cls) (by decide +kernel)
  obtain ⟨⟨n, hrules⟩, hcheck, -⟩ := compile_ok hg
  refine ⟨g, n, hrules, fun hagree ↦ ?_, (checkContradictions_eq_ok_iff hrules).mp hcheck⟩
  simp only [List.any_eq_true, Bool.and_eq_true, beq_iff_eq, bne_iff_ne] at hdiffer
  obtain ⟨a, ha, b, hb, hsource, hcls⟩ := hdiffer
  exact hcls (hagree a ha b hb hsource)

end CodeViewer
