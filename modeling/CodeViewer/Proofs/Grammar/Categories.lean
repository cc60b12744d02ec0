import CodeViewer.Proofs.Grammar.WellFormed

/-!
# The categories of a compiled grammar

Each category has a class of its own and keeps its words, and its pattern is that of the words.
-/

namespace CodeViewer

/-- A pattern that was read is that of the tree of its text. -/
theorem compilePattern_eq_ok {grammar path text : String} {p : Pattern} :
    compilePattern grammar path text = .ok p ↔
      ∃ node, Pattern.parse text = .ok node ∧ p = Pattern.ofNode text node := by
  unfold compilePattern
  cases Pattern.parse text with
  | error e => simp
  | ok node => simp [eq_comm]

/-- A category as compiling leaves it: it has a class and words, and its pattern is that of the
words where the search starts. -/
structure CompiledCategory.Proper (c : CompiledCategory) : Prop where
  cls : c.cls ≠ ""
  words : ProperWords c.words
  pattern : ∃ grammar path, compileAnchored grammar path (wordsPattern c.words) = .ok c.pattern

/-- Categories that were compiled are of distinct classes, none of which was passed before. -/
theorem compileCategories_ok {grammar : String} {index : Nat} {passed : List Class}
    {cs : List Category} {out : List CompiledCategory}
    (h : compileCategories grammar index passed cs = .ok out) :
    (out.map (·.cls)).Nodup ∧ ∀ c ∈ out, c.Proper ∧ c.cls ∉ passed := by
  induction cs generalizing index passed out with
  | nil =>
    cases h
    simp
  | cons c cs ih =>
    unfold compileCategories at h
    split at h
    · cases h
    · next hcls =>
      split at h
      · cases h
      · next hnew =>
        split at h
        · cases h
        · next hwords =>
          obtain ⟨pattern, hpattern, h⟩ := bind_eq_ok.mp h
          obtain ⟨rest, hrest, h⟩ := bind_eq_ok.mp h
          cases h
          obtain ⟨hdistinct, hproper⟩ := ih hrest
          constructor
          · rw [List.map_cons, List.nodup_cons]
            refine ⟨?_, hdistinct⟩
            intro hmem
            obtain ⟨d, hd, he⟩ := List.mem_map.mp hmem
            exact (hproper d hd).2 (he ▸ List.mem_cons_self)
          · intro d hd
            rcases List.mem_cons.mp hd with rfl | hd
            · refine ⟨⟨?_, wordsFlaw?_eq_none_iff.mp hwords, _, _, hpattern⟩, ?_⟩
              · simpa using hcls
              · simpa using hnew
            · obtain ⟨hd, hlater⟩ := hproper d hd
              exact ⟨hd, fun hmem ↦ hlater (List.mem_cons_of_mem _ hmem)⟩

/-- The categories of a compiled grammar are of distinct classes. -/
theorem compile_categories {gr : Grammar} {g : CompiledGrammar} (h : compile gr = .ok g) :
    (g.categories.map (·.cls)).Nodup ∧ ∀ c ∈ g.categories, c.Proper := by
  unfold compile at h
  split at h
  · cases h
  · obtain ⟨categories, hcategories, h⟩ := bind_eq_ok.mp h
    obtain ⟨namePattern, -, h⟩ := bind_eq_ok.mp h
    obtain ⟨wholeName, -, h⟩ := bind_eq_ok.mp h
    obtain ⟨illegal, -, h⟩ := bind_eq_ok.mp h
    obtain ⟨⟨rules, n⟩, -, h⟩ := bind_eq_ok.mp h
    obtain ⟨⟨⟩, -, h⟩ := bind_eq_ok.mp h
    cases h
    obtain ⟨hdistinct, hproper⟩ := compileCategories_ok hcategories
    exact ⟨hdistinct, fun c hc ↦ (hproper c hc).1⟩

/-- A grammar of the words of two categories and an operator, with which one of the words
begins. -/
def twoCategories : Grammar :=
  { name := "words"
    categories := [⟨"keyword", ["if", "in", "<="]⟩, ⟨"type", ["int"]⟩]
    rules := [.mk { cls := "operator", literal := "<" } none] }

end CodeViewer
