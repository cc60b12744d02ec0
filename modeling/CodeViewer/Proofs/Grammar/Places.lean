import CodeViewer.Proofs.Grammar.Forest
import CodeViewer.Proofs.Grammar.WellFormed
import Mathlib.Data.List.Forall2

/-!
# What the rules of a grammar are compiled to

Every rule of a grammar, at every level, is compiled to one rule of the compiled grammar, and these
stand in the order of the grammar. What compiling makes sure of for each rule therefore holds of all
rules of a compiled grammar.
-/

namespace CodeViewer

open CompiledRule

/-- The rule at a place of a grammar is compiled to a rule. -/
structure PlacedRule.CompilesTo (grammar : String) (p : PlacedRule) (x : CompiledRule) : Prop where
  head : ∃ id, compileHead grammar p.top p.path id p.rule.opensMode p.rule.attributes = .ok x.head
  contains : ∃ next n, compileContained grammar (p.path ++ ".contains") next p.rule.contains =
    .ok (x.contains, n)

/-! ### The order of the grammar -/

/-- A rule is compiled at its place. -/
theorem compileRule_compilesTo {grammar path : String} {top : Bool} {next n : Nat} {r : Rule}
    {x : CompiledRule} (h : compileRule grammar top path next r = .ok (x, n)) :
    PlacedRule.CompilesTo grammar ⟨path, top, r⟩ x := by
  obtain ⟨a, contains⟩ := r
  unfold compileRule at h
  obtain ⟨head, hhead, h⟩ := bind_eq_ok.mp h
  obtain ⟨⟨inner, m⟩, hinner, h⟩ := bind_eq_ok.mp h
  cases h
  exact ⟨⟨next, hhead⟩, ⟨next + 1, n, hinner⟩⟩

mutual

private theorem compileRule_places {grammar path : String} {top : Bool} {next n : Nat}
    {out : CompiledRule} :
    (r : Rule) → compileRule grammar top path next r = .ok (out, n) →
      List.Forall₂ (PlacedRule.CompilesTo grammar) (placesOfRule top path r) (flatten out)
  | .mk a contains, h => by
    have hrule := compileRule_compilesTo h
    unfold compileRule at h
    obtain ⟨head, -, h⟩ := bind_eq_ok.mp h
    obtain ⟨⟨inner, m⟩, hinner, h⟩ := bind_eq_ok.mp h
    cases h
    rw [placesOfRule, flatten]
    exact .cons hrule (compileContained_places contains hinner)

private theorem compileContained_places {grammar path : String} {next n : Nat}
    {out : List CompiledRule} :
    (rs : Option (List Rule)) → compileContained grammar path next rs = .ok (out, n) →
      List.Forall₂ (PlacedRule.CompilesTo grammar) (placesOfContained path rs) (flattenAll out)
  | none, h => by
    cases h
    exact .nil
  | some rs, h => compileRules_places rs h

/-- The rules of a forest are compiled in order. -/
theorem compileRules_places {grammar path : String} {top : Bool} {index next n : Nat}
    {out : List CompiledRule} :
    (rs : List Rule) → compileRules grammar top path index next rs = .ok (out, n) →
      List.Forall₂ (PlacedRule.CompilesTo grammar) (placesOfRules top path index rs)
        (flattenAll out)
  | [], h => by
    cases h
    exact .nil
  | r :: rs, h => by
    unfold compileRules at h
    obtain ⟨⟨x, m⟩, hx, h⟩ := bind_eq_ok.mp h
    obtain ⟨⟨xs, k⟩, hxs, h⟩ := bind_eq_ok.mp h
    cases h
    rw [placesOfRules, flattenAll]
    exact List.rel_append (compileRule_places r hx) (compileRules_places rs hxs)

end

section

variable {gr : Grammar} {g : CompiledGrammar} {x : CompiledRule} {p : PlacedRule}

/-- The rules of a compiled grammar are those of the grammar, in order. -/
theorem compile_places (h : compile gr = .ok g) :
    List.Forall₂ (PlacedRule.CompilesTo gr.name) gr.places g.allRules := by
  obtain ⟨⟨n, hrules⟩, -, -⟩ := compile_ok h
  exact compileRules_places gr.rules hrules

private theorem exists_related {α β : Type} {R : α → β → Prop} {as : List α} {bs : List β}
    (h : List.Forall₂ R as bs) {a : α} (ha : a ∈ as) : ∃ b ∈ bs, R a b := by
  induction h with
  | nil => cases ha
  | cons hab _ ih =>
    rcases List.mem_cons.mp ha with rfl | ha
    · exact ⟨_, List.mem_cons_self, hab⟩
    · obtain ⟨b, hb, hrelated⟩ := ih ha
      exact ⟨b, List.mem_cons_of_mem _ hb, hrelated⟩

/-- Every rule of a grammar is compiled to one of the compiled grammar. -/
theorem exists_compilesTo (h : compile gr = .ok g) (hp : p ∈ gr.places) :
    ∃ x ∈ g.allRules, p.CompilesTo gr.name x :=
  exists_related (compile_places h) hp

/-- Every rule of a compiled grammar was compiled from one of the grammar. -/
theorem exists_place (h : compile gr = .ok g) (hx : x ∈ g.allRules) :
    ∃ p ∈ gr.places, p.CompilesTo gr.name x :=
  exists_related (compile_places h).flip hx

/-! ### What compiling makes sure of -/

/-- The mode of a rule that opens one has the attributes of the rule. -/
theorem PlacedRule.CompilesTo.modeSpec {grammar : String} (h : p.CompilesTo grammar x)
    (hopens : p.rule.opensMode = true) :
    ((p.rule.attributes.finish != "") == p.rule.attributes.endsWithParent) = false ∧
      ∃ finish illegal,
        compileOptional grammar (p.path ++ ".end") p.rule.attributes.finish = .ok finish ∧
        x.modeSpec =
          { cls := p.rule.attributes.cls, finish := finish,
            endsWithParent := p.rule.attributes.endsWithParent,
            excludeEnd := p.rule.attributes.excludeEnd,
            returnEnd := p.rule.attributes.returnEnd,
            endsParent := p.rule.attributes.endsParent,
            noInherit := p.rule.attributes.noInherit,
            useCategories := p.rule.attributes.useCategories,
            absorb := p.rule.attributes.absorbUnmatched, illegal := illegal } := by
  obtain ⟨id, hhead⟩ := h.head
  obtain ⟨-, -, source, literal, start, action, -, -, haction, he⟩ := compileHead_parts hhead
  rw [hopens] at haction
  obtain ⟨hend, finish, illegal, hfinish, -, rfl⟩ := compileAction_mode haction
  exact ⟨hend, finish, illegal, hfinish, by rw [CompiledRule.modeSpec, he]⟩

private theorem PlacedRule.CompilesTo.modeSpec_token {grammar : String} (h : p.CompilesTo grammar x)
    (hopens : p.rule.opensMode = false) :
    x.modeSpec =
      { cls := p.rule.attributes.cls, finish := none, endsWithParent := false,
        excludeEnd := false, returnEnd := false,
        endsParent := p.rule.attributes.endsParent, noInherit := false,
        useCategories := false, absorb := false, illegal := none } := by
  obtain ⟨id, hhead⟩ := h.head
  obtain ⟨-, -, source, literal, start, action, -, -, haction, he⟩ := compileHead_parts hhead
  rw [hopens] at haction
  obtain rfl := compileAction_token haction
  rw [CompiledRule.modeSpec, he]

/-- A rule has a class, and the mode it opens has the same one. -/
def CompiledRule.HasClass (r : CompiledRule) : Prop :=
  r.head.cls ≠ "" ∧ r.modeSpec.cls = r.head.cls

/-- All rules of a compiled grammar have classes. -/
theorem compile_hasClass (h : compile gr = .ok g) : ∀ r ∈ g.allRules, r.HasClass := by
  intro r hr
  obtain ⟨p, -, hp⟩ := exists_place h hr
  obtain ⟨id, hhead⟩ := hp.head
  obtain ⟨hcls, -, source, literal, start, action, -, -, -, he⟩ := compileHead_parts hhead
  have hclass : r.head.cls = p.rule.attributes.cls := by rw [he]
  refine ⟨hclass ▸ hcls, ?_⟩
  cases hopens : p.rule.opensMode with
  | true =>
    obtain ⟨-, finish, illegal, -, hspec⟩ := hp.modeSpec hopens
    rw [hspec, hclass]
  | false => rw [hp.modeSpec_token hopens, hclass]

/-- A mode that ends with the modes around it has no end of its own. -/
theorem compile_finish_eq_none (h : compile gr = .ok g) (hx : x ∈ g.allRules)
    (hends : x.modeSpec.endsWithParent = true) : x.modeSpec.finish = none := by
  obtain ⟨p, -, hp⟩ := exists_place h hx
  cases hopens : p.rule.opensMode with
  | true =>
    obtain ⟨hend, finish, illegal, hfinish, hspec⟩ := hp.modeSpec hopens
    rw [hspec] at hends ⊢
    change p.rule.attributes.endsWithParent = true at hends
    have hempty : p.rule.attributes.finish = "" := by simpa [hends] using hend
    rw [hempty] at hfinish
    cases hfinish
    rfl
  | false =>
    rw [hp.modeSpec_token hopens] at hends
    cases hends

end

end CodeViewer
