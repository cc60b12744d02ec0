import CodeViewer.Grammar.Compile
import CodeViewer.Proofs.Except
import Mathlib.Data.List.Nodup

/-!
# The rules of a compiled grammar

Compiling numbers the rules in the order of the grammar, from the outside in, so that a rule is
known by its number. No rule of the top level closes an enclosing mode.
-/

namespace CodeViewer

namespace CompiledRule

/-- Closing the mode of the rule, or matching the rule, closes the enclosing mode too. -/
def endsParent (r : CompiledRule) : Bool := r.modeSpec.endsParent

/-- The rules of a list are among all rules inside it. -/
theorem mem_flattenAll {r : CompiledRule} {rs : List CompiledRule} (h : r ∈ rs) :
    r ∈ flattenAll rs := by
  induction rs with
  | nil => simp at h
  | cons x rs ih =>
    simp only [flattenAll, List.mem_append]
    rcases List.mem_cons.mp h with rfl | h
    · obtain ⟨head, contains⟩ := r
      exact .inl (by simp [flatten])
    · exact .inr (ih h)

mutual

private theorem contains_mem_flatten {r c : CompiledRule} :
    (x : CompiledRule) → r ∈ flatten x → c ∈ r.contains → c ∈ flatten x
  | .mk head inner, hr, hc => by
    simp only [flatten, List.mem_cons] at hr ⊢
    rcases hr with rfl | hr
    · exact .inr (mem_flattenAll hc)
    · exact .inr (contains_mem_flattenAll inner hr hc)

private theorem contains_mem_flattenAll {r c : CompiledRule} :
    (xs : List CompiledRule) → r ∈ flattenAll xs → c ∈ r.contains → c ∈ flattenAll xs
  | [], hr, _ => by simp [flattenAll] at hr
  | x :: xs, hr, hc => by
    simp only [flattenAll, List.mem_append] at hr ⊢
    rcases hr with hr | hr
    · exact .inl (contains_mem_flatten x hr hc)
    · exact .inr (contains_mem_flattenAll xs hr hc)

end

end CompiledRule

open CompiledRule

/-- All rules of a list belong to a forest. -/
def Within (rules rs : List CompiledRule) : Prop := ∀ r ∈ rs, r ∈ flattenAll rules

/-- In the mode of a rule of a forest rules of the forest apply, if they do around it. -/
theorem Within.innerRules {rules visible : List CompiledRule} (h : Within rules visible)
    {r : CompiledRule} (hr : r ∈ flattenAll rules) : Within rules (innerRules r visible) := by
  intro s hs
  unfold CodeViewer.innerRules at hs
  split at hs
  · exact contains_mem_flattenAll rules hr hs
  · rcases List.mem_append.mp hs with hs | hs
    · exact contains_mem_flattenAll rules hr hs
    · exact h s hs

/-! ### What compiling a rule leaves as it is -/

/-- A rule that opens a mode says in exactly one way where the mode ends, and the mode has the
attributes of the rule. -/
theorem compileAction_mode {grammar path : String} {a : RuleAttributes} {action : Action}
    (h : compileAction grammar path true a = .ok action) :
    ((a.finish != "") == a.endsWithParent) = false ∧
      ∃ finish illegal, compileOptional grammar (path ++ ".end") a.finish = .ok finish ∧
        compileOptional grammar (path ++ ".illegal") a.illegal = .ok illegal ∧
        action = .enter
          { cls := a.cls, finish := finish, endsWithParent := a.endsWithParent,
            excludeEnd := a.excludeEnd, returnEnd := a.returnEnd, endsParent := a.endsParent,
            noInherit := a.noInherit, useCategories := a.useCategories,
            absorb := a.absorbUnmatched, illegal := illegal } := by
  simp only [compileAction, Bool.not_true, Bool.false_eq_true, ite_false] at h
  split at h
  · cases h
  · next hend =>
    split at h
    · cases h
    · obtain ⟨finish, hfinish, h⟩ := bind_eq_ok.mp h
      obtain ⟨illegal, hillegal, h⟩ := bind_eq_ok.mp h
      cases h
      exact ⟨Bool.eq_false_iff.mpr hend, finish, illegal, hfinish, hillegal, rfl⟩

/-- A rule that opens no mode emits a token. -/
theorem compileAction_token {grammar path : String} {a : RuleAttributes} {action : Action}
    (h : compileAction grammar path false a = .ok action) : action = .emit a.endsParent := by
  simp only [compileAction, Bool.not_false, ite_true] at h
  split at h
  · cases h
  · cases h
    rfl

/-- The parts of a rule that was compiled. -/
theorem compileHead_parts {grammar path : String} {top opensMode : Bool} {id : Nat}
    {a : RuleAttributes} {head : RuleHead}
    (h : compileHead grammar top path id opensMode a = .ok head) :
    a.cls ≠ "" ∧ (top && a.endsParent) = false ∧ ∃ source literal start action,
      ruleSource a = .ok (source, literal) ∧ compileAnchored grammar path source = .ok start ∧
      compileAction grammar path opensMode a = .ok action ∧
      head = ⟨id, path, a.cls, a.effectiveBeginClass, source, start, literal, action⟩ := by
  unfold compileHead at h
  split at h
  · cases h
  · next hcls =>
    split at h
    · cases h
    · next source literal hsource =>
      obtain ⟨start, hstart, h⟩ := bind_eq_ok.mp h
      split at h
      · cases h
      · next htop =>
        obtain ⟨action, haction, h⟩ := bind_eq_ok.mp h
        cases h
        refine ⟨by simpa using hcls, by simpa using htop, source, literal, start, action, ?_⟩
        exact ⟨hsource, hstart, haction, rfl⟩

/-- A rule gets the number it is compiled with, and closes the enclosing mode as it says, which
no rule of the top level does. -/
theorem compileHead_ok {grammar path : String} {top opensMode : Bool} {id : Nat}
    {a : RuleAttributes} {head : RuleHead}
    (h : compileHead grammar top path id opensMode a = .ok head) (inner : List CompiledRule) :
    head.id = id ∧ (CompiledRule.mk head inner).endsParent = a.endsParent ∧
      (top && a.endsParent) = false := by
  obtain ⟨-, htop, source, literal, start, action, -, -, haction, rfl⟩ := compileHead_parts h
  refine ⟨rfl, ?_, htop⟩
  cases opensMode with
  | true =>
    obtain ⟨-, finish, illegal, -, -, rfl⟩ := compileAction_mode haction
    rfl
  | false =>
    obtain rfl := compileAction_token haction
    rfl

/-! ### Numbers -/

mutual

private theorem compileRule_ids {grammar path : String} {top : Bool} {next n : Nat}
    {out : CompiledRule} :
    (r : Rule) → compileRule grammar top path next r = .ok (out, n) →
      (flatten out).map (·.id) = List.range' next (n - next) ∧ next < n
  | .mk a contains, h => by
    unfold compileRule at h
    obtain ⟨head, hhead, h⟩ := bind_eq_ok.mp h
    obtain ⟨⟨inner, m⟩, hinner, h⟩ := bind_eq_ok.mp h
    cases h
    obtain ⟨hids, hle⟩ := compileContained_ids contains hinner
    have hn : n - next = n - (next + 1) + 1 := by omega
    refine ⟨?_, hle⟩
    simp only [flatten, List.map_cons, hids, hn, List.range'_succ]
    rw [CompiledRule.id, CompiledRule.head, (compileHead_ok hhead inner).1]

private theorem compileContained_ids {grammar path : String} {next n : Nat}
    {out : List CompiledRule} :
    (rs : Option (List Rule)) → compileContained grammar path next rs = .ok (out, n) →
      (flattenAll out).map (·.id) = List.range' next (n - next) ∧ next ≤ n
  | none, h => by
    cases h
    simp [flattenAll]
  | some rs, h => compileRules_ids rs h

/-- The rules of a forest are numbered in order, without a gap. -/
theorem compileRules_ids {grammar path : String} {top : Bool} {index next n : Nat}
    {out : List CompiledRule} :
    (rs : List Rule) → compileRules grammar top path index next rs = .ok (out, n) →
      (flattenAll out).map (·.id) = List.range' next (n - next) ∧ next ≤ n
  | [], h => by
    cases h
    simp [flattenAll]
  | r :: rs, h => by
    unfold compileRules at h
    obtain ⟨⟨x, m⟩, hx, h⟩ := bind_eq_ok.mp h
    obtain ⟨⟨xs, k⟩, hxs, h⟩ := bind_eq_ok.mp h
    cases h
    obtain ⟨hid, hlt⟩ := compileRule_ids r hx
    obtain ⟨hids, hle⟩ := compileRules_ids rs hxs
    have hm : next + (m - next) = m := by omega
    have hn : n - next = (m - next) + (n - m) := by omega
    refine ⟨?_, by omega⟩
    simp only [flattenAll, List.map_append, hid, hids]
    rw [hn, ← List.range'_append_1, hm]

end

/-- A forest in which every rule is known by its number. -/
def Numbered (rs : List CompiledRule) : Prop :=
  ∀ r ∈ flattenAll rs, ∀ s ∈ flattenAll rs, r.id = s.id → r = s

/-- Compiling rules numbers them. -/
theorem compileRules_numbered {grammar path : String} {top : Bool} {index next n : Nat}
    {rs : List Rule} {out : List CompiledRule}
    (h : compileRules grammar top path index next rs = .ok (out, n)) : Numbered out := by
  obtain ⟨hids, -⟩ := compileRules_ids rs h
  have hnodup : ((flattenAll out).map (·.id)).Nodup := by
    rw [hids]
    exact List.nodup_range'
  intro r hr s hs heq
  exact List.inj_on_of_nodup_map hnodup hr hs heq

/-! ### The top level -/

/-- A top-level rule has no parent to close. -/
theorem compileRules_top {grammar path : String} {index next n : Nat} {rs : List Rule}
    {out : List CompiledRule}
    (h : compileRules grammar true path index next rs = .ok (out, n)) :
    ∀ r ∈ out, r.endsParent = false := by
  induction rs generalizing index next out with
  | nil =>
    cases h
    simp
  | cons r rs ih =>
    unfold compileRules at h
    obtain ⟨⟨x, m⟩, hx, h⟩ := bind_eq_ok.mp h
    obtain ⟨⟨xs, k⟩, hxs, h⟩ := bind_eq_ok.mp h
    cases h
    intro y hy
    rcases List.mem_cons.mp hy with rfl | hy
    · obtain ⟨a, contains⟩ := r
      unfold compileRule at hx
      obtain ⟨head, hhead, hx⟩ := bind_eq_ok.mp hx
      obtain ⟨⟨inner, m⟩, -, hx⟩ := bind_eq_ok.mp hx
      cases hx
      obtain ⟨-, hends, htop⟩ := compileHead_ok hhead inner
      rw [hends]
      simpa using htop
    · exact ih hxs y hy

/-- The parts of a grammar that was compiled: the rules of the top level, which do not contradict
each other, and a top-level mode that never ends. -/
theorem compile_ok {gr : Grammar} {g : CompiledGrammar} (h : compile gr = .ok g) :
    (∃ n, compileRules gr.name true "rules" 0 1 gr.rules = .ok (g.rules, n)) ∧
      checkContradictions gr.name g.rules = .ok () ∧ ∃ illegal, g.root = rootSpec illegal := by
  unfold compile at h
  split at h
  · cases h
  · obtain ⟨categories, -, h⟩ := bind_eq_ok.mp h
    obtain ⟨namePattern, -, h⟩ := bind_eq_ok.mp h
    obtain ⟨wholeName, -, h⟩ := bind_eq_ok.mp h
    obtain ⟨illegal, -, h⟩ := bind_eq_ok.mp h
    obtain ⟨⟨rules, n⟩, hrules, h⟩ := bind_eq_ok.mp h
    obtain ⟨⟨⟩, hcheck, h⟩ := bind_eq_ok.mp h
    cases h
    exact ⟨⟨n, hrules⟩, hcheck, illegal, rfl⟩

/-! ### A small grammar -/

/-- A grammar of blocks that nest in themselves. An inner block closes the block around it when
it ends, and so does a semicolon. -/
def nestedBlocks : Grammar :=
  { name := "blocks"
    rules :=
      [.mk { cls := "block", literal := "<", finish := ">" }
        (some
          [.mk { cls := "inner", literal := "(", finish := "\\)", endsParent := true } none,
           .mk { cls := "stop", pattern := ";", endsParent := true } none])] }

/-- A grammar whose compiled form passes a test can be compiled. -/
theorem exists_compiled (gr : Grammar) (test : CompiledGrammar → Bool)
    (h : (compile gr).toOption.any test = true) : ∃ g, compile gr = .ok g ∧ test g = true := by
  cases hg : compile gr with
  | error e => simp [hg, Except.toOption] at h
  | ok g => exact ⟨g, rfl, by simpa [hg, Except.toOption] using h⟩

end CodeViewer
