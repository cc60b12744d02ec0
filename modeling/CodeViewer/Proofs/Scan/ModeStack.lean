import CodeViewer.Proofs.Grammar.Forest
import CodeViewer.Scan.ModeStack

/-!
# What entering and leaving modes does

A mode stack changes in two ways: the mode of a rule is entered, or the innermost modes are
closed. All rules that apply at any time are rules of the grammar.
-/

namespace CodeViewer

namespace ModeStack

/-- The stack behind the entrance to the mode of a rule. -/
def enter (s : ModeStack) (r : CompiledRule) : ModeStack :=
  { s with opened := inner s.top r :: s.opened }

/-- The stack without its innermost modes. -/
def close (s : ModeStack) (count : Nat) : ModeStack :=
  { s with opened := s.opened.drop count }

/-- Entering a mode leaves the limit as it is. -/
@[simp] theorem limit_enter (s : ModeStack) (r : CompiledRule) :
    (s.enter r).limit = s.limit := rfl

/-- A mode that is entered is one more. -/
@[simp] theorem depth_enter (s : ModeStack) (r : CompiledRule) :
    (s.enter r).depth = s.depth + 1 := rfl

/-- The mode that was entered is the innermost one. -/
@[simp] theorem top_enter (s : ModeStack) (r : CompiledRule) :
    (s.enter r).top = inner s.top r := rfl

/-- Modes that are closed are as many less. -/
@[simp] theorem depth_close (s : ModeStack) (count : Nat) :
    (s.close count).depth = s.depth - count := by
  simp [depth, close]

/-- The mode of a rule is that of its attributes. -/
@[simp] theorem spec_inner (parent : Mode) (r : CompiledRule) :
    (inner parent r).spec = r.modeSpec := by
  simp only [inner]
  split <;> rfl

/-- In the mode of a rule its own rules apply, and those of the mode around it unless it refuses
them. -/
theorem visible_inner (parent : Mode) (r : CompiledRule) :
    (inner parent r).visible = innerRules r parent.visible := by
  simp only [inner, innerRules]
  split <;> rfl

/-- Modes that are closed one after the other are closed. -/
@[simp] theorem close_close (s : ModeStack) (m n : Nat) :
    (s.close m).close n = s.close (m + n) := by
  simp [close, List.drop_drop]

/-- A mode is entered exactly if the limit is not reached. -/
theorem push_eq_ok {s s' : ModeStack} {r : CompiledRule} {offset : Int} :
    s.push r offset = .ok s' ↔ s.depth < s.limit ∧ s' = s.enter r := by
  unfold push
  split
  · next h => simp [Nat.not_lt.mpr h]
  · next h => simp [Nat.not_le.mp h, enter, eq_comm]

/-- A refused entrance reports the limit, the place and the class of the rule. -/
theorem push_eq_error {s : ModeStack} {r : CompiledRule} {offset : Int} {e : ScanError} :
    s.push r offset = .error e ↔
      s.limit ≤ s.depth ∧ e = .tooDeep s.limit offset r.head.cls := by
  unfold push
  split
  · next h => simp [h, eq_comm]
  · next h => simp [h]

/-- A mode is left exactly if one is open. -/
theorem pop_eq_ok {s s' : ModeStack} : s.pop = .ok s' ↔ 0 < s.depth ∧ s' = s.close 1 := by
  unfold pop
  split
  · next h => simp [depth, h]
  · next m rest h => simp [depth, close, h, eq_comm]

/-- Only the top level cannot be left. -/
theorem pop_eq_error {s : ModeStack} {e : ScanError} :
    s.pop = .error e ↔ s.depth = 0 ∧ e = .closedTopLevel := by
  unfold pop
  split
  · next h => simp [depth, h, eq_comm]
  · next m rest h => simp [depth, h]

end ModeStack

/-! ### Modes of a grammar -/

/-- A mode is one of a grammar: the top-level mode or that of a rule, in which rules of the
grammar apply. -/
structure Mode.BelongsTo (m : Mode) (g : CompiledGrammar) : Prop where
  spec : m.spec = g.root ∨ ∃ r ∈ g.allRules, m.spec = r.modeSpec
  visible : Within g.rules m.visible

/-- A stack of modes of a grammar, the top-level mode undermost. -/
structure ModeStack.BelongsTo (s : ModeStack) (g : CompiledGrammar) : Prop where
  root : s.root = ⟨g.root, g.rules, g.root.useCategories⟩
  opened : ∀ m ∈ s.opened, m.BelongsTo g

namespace ModeStack

variable {s : ModeStack} {g : CompiledGrammar}

/-- A scan starts in the top-level mode. -/
theorem belongsTo_ofGrammar (g : CompiledGrammar) (maxDepth : Int) :
    (ofGrammar g maxDepth).BelongsTo g :=
  ⟨rfl, fun _ hm ↦ nomatch hm⟩

/-- The innermost mode is one of the grammar. -/
theorem BelongsTo.top (h : s.BelongsTo g) : s.top.BelongsTo g := by
  unfold ModeStack.top
  cases ho : s.opened with
  | nil =>
    rw [List.headD_nil, h.root]
    exact ⟨.inl rfl, fun r hr ↦ CompiledRule.mem_flattenAll hr⟩
  | cons m rest => exact h.opened m (by simp [ho])

/-- A rule that applies in a mode leads to a mode of the grammar. -/
theorem BelongsTo.enter (h : s.BelongsTo g) {r : CompiledRule} (hr : r ∈ s.top.visible) :
    (s.enter r).BelongsTo g := by
  have hrule : r ∈ g.allRules := h.top.visible r hr
  refine ⟨h.root, fun m hm ↦ ?_⟩
  rcases List.mem_cons.mp hm with rfl | hm
  · refine ⟨.inr ⟨r, hrule, spec_inner _ _⟩, ?_⟩
    rw [visible_inner]
    exact h.top.visible.innerRules hrule
  · exact h.opened m hm

/-- What is left after closing modes are modes of the grammar. -/
theorem BelongsTo.close (h : s.BelongsTo g) (count : Nat) : (s.close count).BelongsTo g :=
  ⟨h.root, fun m hm ↦ h.opened m (List.mem_of_mem_drop hm)⟩

end ModeStack

end CodeViewer
