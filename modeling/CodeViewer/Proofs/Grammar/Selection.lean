import CodeViewer.Proofs.Grammar.Registry
import Mathlib.Data.List.Find

/-!
# Choosing a grammar by its name

Grammars are asked in the order of their priority, each for its name and its aliases. So a
grammar answers to its own name unless one in front of it has that name as an alias; then the
first such grammar does.
-/

namespace CodeViewer

/-- Whether a grammar has an alias. -/
def Grammar.hasAlias (name : String) (g : Grammar) : Bool :=
  g.aliases.any (Unicode.equalFold · name)

/-- The first grammar that has an alias, or else `g`. -/
def aliasedOr (g : Grammar) (gs : List Grammar) (name : String) : Grammar :=
  (gs.find? (·.hasAlias name)).getD g

namespace Registry

/-- Looking up `name` comes to what `g` is compiled to, or else to what the first grammar in
front of `g` is that has the name as an alias. -/
def Resolves (r : Registry) (name : String) (g : Grammar) : Prop :=
  ∃ before after, r.grammars = before ++ g :: after ∧
    (r.get name).1 = (compile (aliasedOr g before name)).mapError .invalid

variable {r : Registry} {c : Catalogue} {before after : List Grammar} {g : Grammar}

private theorem answersTo_name (g : Grammar) : answersTo g.name g = true := by
  have h : Unicode.equalFold g.name g.name = true := Grammar.SameName.refl g
  rw [answersTo, h, Bool.true_or]

private theorem answersTo_eq_hasAlias {h : Grammar} (hn : ¬ h.SameName g) :
    answersTo g.name h = h.hasAlias g.name := by
  have hn : Unicode.equalFold h.name g.name = false := Bool.eq_false_iff.mpr hn
  rw [answersTo, hn, Bool.false_or, Grammar.hasAlias]

private theorem find?_answersTo (hothers : ∀ h ∈ before, ¬ h.SameName g) :
    (before ++ g :: after).find? (answersTo g.name) = some (aliasedOr g before g.name) := by
  have hbefore : before.find? (answersTo g.name) = before.find? (·.hasAlias g.name) :=
    List.find?_congr fun h hh ↦ answersTo_eq_hasAlias (hothers h hh)
  rw [List.find?_append, hbefore, List.find?_cons_of_pos (answersTo_name g), aliasedOr]
  cases before.find? (·.hasAlias g.name) with
  | none => rfl
  | some h => rfl

/-- A name resolves in a registry that stands for a list of grammars. -/
theorem Mirrors.resolves (h : Mirrors r c) (hg : g ∈ r.grammars) : r.Resolves g.name g := by
  obtain ⟨before, after, hsplit⟩ := List.append_of_mem hg
  have hdistinct : DistinctNames r.grammars := h.grammars ▸ h.distinct
  rw [hsplit] at hdistinct
  have hothers := (distinctNames_insert.mp hdistinct).2
  refine ⟨before, after, hsplit, ?_⟩
  rw [get, (find_eq h.honest _ _).1, Catalogue.find, hsplit,
    find?_answersTo fun h hh ↦ hothers h (List.mem_append_left after hh)]

private theorem mem_names {name : String} : name ∈ r.names ↔ ∃ g ∈ r.grammars, g.name = name := by
  change name ∈ insertEach (r.entries.map (·.grammar.name)) [] ↔ _
  rw [(insertEach_perm _ []).mem_iff, grammars]
  simp

/-- Each name that is listed resolves to the grammar that was registered under it last, unless a
grammar in front of that has the name as an alias; and so does the name of a grammar that has
just been registered. -/
theorem listed_name_resolves (calls : List RegistryCall) :
    (∀ name ∈ (afterCalls calls).names, ∃ g, g.name = name ∧
      IsCurrent (zig :: registrations calls) g ∧ (afterCalls calls).Resolves name g) ∧
    ∀ g, ((afterCalls calls).register g).Resolves g.name g := by
  have hrun := (Mirrors.bundled.run calls).2
  constructor
  · intro name hname
    obtain ⟨g, hg, rfl⟩ := mem_names.mp hname
    exact ⟨g, rfl, (mem_grammars_afterCalls calls g).mp hg, hrun.resolves hg⟩
  · intro g
    have hreg := hrun.register g
    refine hreg.resolves ?_
    rw [hreg.grammars, Catalogue.mem_register]
    exact .inl rfl

/-- A grammar that goes by another one's name as well. -/
def iniGrammar : Grammar := { name := "ini", aliases := ["conf"] }

/-- The grammar that has the name. -/
def confGrammar : Grammar := { name := "conf" }

/-- The grammar with the alias is registered first. -/
def shadowingCalls : List RegistryCall := [.register iniGrammar, .register confGrammar]

private theorem conf_mem_names : "conf" ∈ (afterCalls shadowingCalls).names := by decide +kernel

/-- The name of the second grammar resolves as said above. -/
theorem listed_name_resolves_shadowed :
    "conf" ∈ (afterCalls shadowingCalls).names ∧ ∃ g, g.name = "conf" ∧
      IsCurrent (zig :: registrations shadowingCalls) g ∧
      (afterCalls shadowingCalls).Resolves "conf" g :=
  ⟨conf_mem_names, (listed_name_resolves shadowingCalls).1 "conf" conf_mem_names⟩

/-- It does not resolve to the grammar that has it: the first grammar is found by its alias. -/
theorem alias_shadows_listed_name :
    "conf" ∈ (afterCalls shadowingCalls).names ∧ confGrammar.name = "conf" ∧
      IsCurrent (zig :: registrations shadowingCalls) confGrammar ∧
      ((afterCalls shadowingCalls).get "conf").1 ≠ (compile confGrammar).mapError .invalid := by
  refine ⟨conf_mem_names, rfl, ⟨[zig, iniGrammar], [], rfl, by simp⟩, fun heq ↦ ?_⟩
  have hfound : ((afterCalls shadowingCalls).get "conf").1.toOption.map (·.name) = some "ini" := by
    decide +kernel
  have hown : (compile confGrammar).toOption.map (·.name) = some "conf" := by decide +kernel
  rw [heq] at hfound
  cases hc : compile confGrammar with
  | error e =>
    rw [hc] at hown
    cases hown
  | ok c =>
    rw [hc] at hown hfound
    exact absurd (hfound.symm.trans hown) (by decide)

end Registry

end CodeViewer
