import CodeViewer.Proofs.Scan.ModeStack

/-!
# The modes of a stack in closed form

A mode keeps the rules that apply in it and whether word categories do from the moment it is entered
on. What it keeps is what the rules of the open modes say at any later time: the rules inside them
one after the other, from the innermost mode outwards up to the first one that inherits nothing.
This holds whatever modes were entered and left before, whether a call was refused or not.
-/

namespace CodeViewer

/-! ### Histories -/

/-- A call on a stack of modes. -/
inductive ModeCall where
  /-- Enter the mode of a rule that matched at a byte offset. -/
  | push (r : CompiledRule) (offset : Int)
  /-- Leave the innermost mode. -/
  | pop

namespace ModeStack

/-- What a call comes to. -/
def call (s : ModeStack) : ModeCall → Except ScanError ModeStack
  | .push r offset => s.push r offset
  | .pop => s.pop

/-- The stack behind a call, which a refused call leaves as it is. -/
def afterCall (s : ModeStack) (c : ModeCall) : ModeStack := (s.call c).toOption.getD s

/-- The stack behind some calls, one after the other. -/
def afterCalls (s : ModeStack) (calls : List ModeCall) : ModeStack := calls.foldl afterCall s

/-- The modes of a stack, innermost first. The last one is the top-level mode. -/
def modes (s : ModeStack) : List Mode := s.opened ++ [s.root]

end ModeStack

/-- The rules whose modes are open behind a call, innermost first, if at most `limit` may be. -/
def openRulesAfter (limit : Nat) (rules : List CompiledRule) : ModeCall → List CompiledRule
  | .push r _ => if rules.length < limit then r :: rules else rules
  | .pop => rules.tail

/-- The rules whose modes are open behind some calls, innermost first. -/
def openRules (limit : Nat) (calls : List ModeCall) : List CompiledRule :=
  calls.foldl (openRulesAfter limit) []

/-! ### What applies -/

/-- A mode as it is declared: its attributes and the rules inside it. -/
structure Level where
  spec : ModeSpec
  contains : List CompiledRule

/-- The mode of a rule. -/
def Level.ofRule (r : CompiledRule) : Level := ⟨r.modeSpec, r.contains⟩

/-- The modes of some rules inside the top-level mode of a grammar. -/
def levels (g : CompiledGrammar) (rules : List CompiledRule) : List Level :=
  rules.map Level.ofRule ++ [⟨g.root, g.rules⟩]

/-- The modes that have a say in the innermost one: those from it outwards up to the first that
inherits nothing, which is the last one to be counted. -/
def deciding : List Level → List Level
  | [] => []
  | l :: outer => if l.spec.noInherit then [l] else l :: deciding outer

/-- A mode inside others. All rules apply that are inside a mode which has a say, and word
categories do if one of these modes uses them. -/
def Level.modeIn (l : Level) (outer : List Level) : Mode :=
  ⟨l.spec, (deciding (l :: outer)).flatMap (·.contains),
    (deciding (l :: outer)).any (·.spec.useCategories)⟩

/-- Modes, each inside those behind it. -/
def nestedModes : List Level → List Mode
  | [] => []
  | l :: outer => l.modeIn outer :: nestedModes outer

private theorem inner_modeIn (r : CompiledRule) (l : Level) (outer : List Level) :
    ModeStack.inner (l.modeIn outer) r = (Level.ofRule r).modeIn (l :: outer) := by
  have hdeciding : deciding (Level.ofRule r :: l :: outer) =
      if r.modeSpec.noInherit then [Level.ofRule r]
      else Level.ofRule r :: deciding (l :: outer) := rfl
  unfold ModeStack.inner Level.modeIn
  rw [hdeciding]
  simp only
  split
  · simp only [List.flatMap_cons, List.flatMap_nil, List.append_nil, List.any_cons, List.any_nil,
      Bool.or_false, Level.ofRule]
  · simp only [List.flatMap_cons, List.any_cons, Level.ofRule]

private theorem nestedModes_parent (g : CompiledGrammar) {rules : List CompiledRule} {i : Nat}
    {r : CompiledRule} (hr : rules[i]? = some r) :
    ∃ parent, (nestedModes (levels g rules))[i + 1]? = some parent ∧
      (nestedModes (levels g rules))[i]? = some (ModeStack.inner parent r) := by
  induction rules generalizing i with
  | nil => cases hr
  | cons r' rules ih =>
    cases i with
    | succ i => exact ih hr
    | zero =>
      obtain rfl := Option.some.inj hr
      -- The mode directly below is the top-level mode or that of another rule.
      cases rules with
      | nil => exact ⟨_, rfl, congrArg some (inner_modeIn _ _ _).symm⟩
      | cons r'' rules => exact ⟨_, rfl, congrArg some (inner_modeIn _ _ _).symm⟩

private theorem length_nestedModes (ls : List Level) : (nestedModes ls).length = ls.length := by
  induction ls with
  | nil => rfl
  | cons l outer ih => rw [nestedModes, List.length_cons, List.length_cons, ih]

namespace ModeStack

variable {s : ModeStack} {g : CompiledGrammar} {limit : Nat} {rules : List CompiledRule}

/-! ### Calls -/

private theorem modes_enter (s : ModeStack) (r : CompiledRule) :
    (s.enter r).modes = inner s.top r :: s.modes := rfl

private theorem modes_close (h : 0 < s.depth) : (s.close 1).modes = s.modes.tail := by
  unfold modes close
  cases ho : s.opened with
  | nil => simp [depth, ho] at h
  | cons m rest => rfl

private theorem head?_modes (s : ModeStack) : s.modes.head? = some s.top := by
  unfold modes top
  cases s.opened with
  | nil => rfl
  | cons m rest => rfl

/-- A stack keeps the modes of some rules, of which there are no more than may be open. -/
structure Keeps (s : ModeStack) (g : CompiledGrammar) (limit : Nat) (rules : List CompiledRule) :
    Prop where
  modes_eq : s.modes = nestedModes (levels g rules)
  limit_eq : s.limit = limit
  length_le : rules.length ≤ limit

/-- At the start of a scan only the top-level mode is there. -/
theorem keeps_ofGrammar (g : CompiledGrammar) (maxDepth : Int) :
    (ofGrammar g maxDepth).Keeps g (effectiveLimit maxDepth) [] := by
  refine ⟨?_, rfl, Nat.zero_le _⟩
  simp only [levels, List.map_nil, List.nil_append, nestedModes, Level.modeIn, deciding]
  unfold ModeStack.modes ofGrammar
  split
  · simp
  · simp

private theorem Keeps.depth_eq (h : s.Keeps g limit rules) : s.depth = rules.length := by
  have hlength := congrArg List.length h.modes_eq
  simpa [ModeStack.modes, depth, levels, length_nestedModes] using hlength

private theorem Keeps.top_eq (h : s.Keeps g limit rules) :
    ∃ l outer, levels g rules = l :: outer ∧ s.top = l.modeIn outer := by
  have hhead := s.head?_modes
  rw [h.modes_eq] at hhead
  cases hlevels : levels g rules with
  | nil => exact absurd hlevels (by simp [levels])
  | cons l outer =>
    rw [hlevels] at hhead
    exact ⟨l, outer, rfl, (Option.some.inj hhead).symm⟩

/-- Entering the mode of a rule adds this rule. -/
theorem Keeps.enter (h : s.Keeps g limit rules) (r : CompiledRule) (hlt : rules.length < limit) :
    (s.enter r).Keeps g limit (r :: rules) := by
  obtain ⟨l, outer, hlevels, htop⟩ := h.top_eq
  refine ⟨?_, h.limit_eq, hlt⟩
  calc (s.enter r).modes
    _ = inner (l.modeIn outer) r :: nestedModes (levels g rules) := by
      rw [modes_enter, htop, h.modes_eq]
    _ = (Level.ofRule r).modeIn (levels g rules) :: nestedModes (levels g rules) := by
      rw [inner_modeIn, hlevels]
    _ = nestedModes (levels g (r :: rules)) := rfl

/-- Leaving the innermost mode takes the first rule away. -/
theorem Keeps.close (h : s.Keeps g limit rules) (hopen : 0 < s.depth) :
    (s.close 1).Keeps g limit rules.tail := by
  cases rules with
  | nil => exact absurd h.depth_eq (Nat.ne_of_gt hopen)
  | cons r rules =>
    refine ⟨?_, h.limit_eq, Nat.le_of_succ_le h.length_le⟩
    rw [modes_close hopen, h.modes_eq]
    rfl

/-- A call that is refused or not leaves a stack with the modes of the rules that are open then. -/
theorem Keeps.afterCall (h : s.Keeps g limit rules) (c : ModeCall) :
    (s.afterCall c).Keeps g limit (openRulesAfter limit rules c) := by
  have hdepth := h.depth_eq
  unfold ModeStack.afterCall
  cases c with
  | push r offset =>
    rw [call, openRulesAfter]
    cases hpush : s.push r offset with
    | ok s' =>
      obtain ⟨hlt, rfl⟩ := push_eq_ok.mp hpush
      rw [h.limit_eq, hdepth] at hlt
      rw [if_pos hlt]
      exact h.enter r hlt
    | error e =>
      obtain ⟨hle, -⟩ := push_eq_error.mp hpush
      rw [h.limit_eq, hdepth] at hle
      rw [if_neg (Nat.not_lt.mpr hle)]
      exact h
  | pop =>
    rw [call, openRulesAfter]
    cases hpop : s.pop with
    | ok s' =>
      obtain ⟨hopen, rfl⟩ := pop_eq_ok.mp hpop
      exact h.close hopen
    | error e =>
      obtain ⟨hnone, -⟩ := pop_eq_error.mp hpop
      rw [List.length_eq_zero_iff.mp (hdepth.symm.trans hnone)] at h ⊢
      exact h

/-- A call that fails leaves the stack as it is. -/
theorem afterCall_of_error {c : ModeCall} {e : ScanError} (h : s.call c = .error e) :
    s.afterCall c = s := by
  rw [afterCall, h]
  rfl

/-- What the modes of a stack are while those of some rules are open. -/
structure InClosedForm (s : ModeStack) (g : CompiledGrammar) (limit : Nat)
    (rules : List CompiledRule) : Prop where
  /-- There is a mode for each of the rules, and the top-level mode below them. -/
  modes_eq : s.modes = nestedModes (levels g rules)
  /-- Each mode is that of its rule, entered from the mode directly below it. -/
  parent : ∀ i r, rules[i]? = some r →
    ∃ parent, s.modes[i + 1]? = some parent ∧ s.modes[i]? = some (inner parent r)
  /-- The rules apply that are inside the modes which have a say, innermost first, as often as they
  stand there. -/
  visible : s.top.visible = (deciding (levels g rules)).flatMap (·.contains)
  /-- Word categories apply if one of these modes uses them. -/
  categories : s.top.categories = (deciding (levels g rules)).any (·.spec.useCategories)
  depth : s.depth = rules.length ∧ s.depth ≤ limit
  /-- Below the limit every mode is entered, and leaving it brings back the stack as it was. At the
  limit it is refused, which changes nothing. -/
  push : ∀ r offset,
    (s.depth < limit ∧ ∃ s', s.push r offset = .ok s' ∧ s'.modes = inner s.top r :: s.modes ∧
      s'.pop = .ok s) ∨
    (s.depth = limit ∧ s.push r offset = .error (.tooDeep limit offset r.head.cls) ∧
      s.afterCall (.push r offset) = s)
  /-- An open mode is left. The top level cannot be left, and trying to changes nothing. -/
  pop : (0 < s.depth ∧ ∃ s', s.pop = .ok s' ∧ s'.modes = s.modes.tail) ∨
    (s.depth = 0 ∧ s.pop = .error .closedTopLevel ∧ s.afterCall .pop = s)

/-- The modes of a stack in closed form. Whatever modes were entered and left since the start of a
scan, by calls that succeeded or were refused, the modes of the stack are those of the rules that
are open, each entered from the one directly below it. What applies in them does not depend on what
came before: in the innermost mode it is what stands inside the open modes, up to and including the
first one that inherits nothing or the top level. -/
theorem modes_in_closed_form (g : CompiledGrammar) (maxDepth : Int) (calls : List ModeCall) :
    ((ofGrammar g maxDepth).afterCalls calls).InClosedForm g (effectiveLimit maxDepth)
      (openRules (effectiveLimit maxDepth) calls) := by
  have hkeeps : ((ofGrammar g maxDepth).afterCalls calls).Keeps g (effectiveLimit maxDepth)
      (openRules (effectiveLimit maxDepth) calls) :=
    List.foldl_rel (r := fun (s : ModeStack) rules ↦ s.Keeps g (effectiveLimit maxDepth) rules)
      (keeps_ofGrammar g maxDepth) fun c _ s rules h ↦ h.afterCall c
  generalize (ofGrammar g maxDepth).afterCalls calls = s at hkeeps ⊢
  generalize openRules (effectiveLimit maxDepth) calls = rules at hkeeps ⊢
  obtain ⟨l, outer, hlevels, htop⟩ := hkeeps.top_eq
  have hdepth := hkeeps.depth_eq
  have hle : s.depth ≤ effectiveLimit maxDepth := hdepth ▸ hkeeps.length_le
  constructor
  case modes_eq => exact hkeeps.modes_eq
  case parent =>
    intro i r hr
    rw [hkeeps.modes_eq]
    exact nestedModes_parent g hr
  case visible =>
    rw [htop, hlevels]
    rfl
  case categories =>
    rw [htop, hlevels]
    rfl
  case depth => exact ⟨hdepth, hle⟩
  case push =>
    intro r offset
    rcases Nat.lt_or_eq_of_le hle with hlt | heq
    · have hpush : s.push r offset = .ok (s.enter r) :=
        push_eq_ok.mpr ⟨hkeeps.limit_eq.symm ▸ hlt, rfl⟩
      exact .inl ⟨hlt, s.enter r, hpush, modes_enter s r, pop_eq_ok.mpr ⟨Nat.succ_pos _, rfl⟩⟩
    · have hpush : s.push r offset =
          .error (.tooDeep (effectiveLimit maxDepth) offset r.head.cls) :=
        push_eq_error.mpr
          ⟨Nat.le_of_eq (hkeeps.limit_eq.trans heq.symm), by rw [hkeeps.limit_eq]⟩
      exact .inr ⟨heq, hpush, afterCall_of_error hpush⟩
  case pop =>
    rcases Nat.eq_zero_or_pos s.depth with hnone | hopen
    · have hpop : s.pop = .error .closedTopLevel := pop_eq_error.mpr ⟨hnone, rfl⟩
      exact .inr ⟨hnone, hpop, afterCall_of_error hpop⟩
    · exact .inl ⟨hopen, s.close 1, pop_eq_ok.mpr ⟨hopen, rfl⟩, modes_close hopen⟩

end ModeStack

end CodeViewer
