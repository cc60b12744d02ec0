import CodeViewer.Proofs.Grammar.RuleSet

/-!
# Following the modes of a grammar

The search for contradictions follows each combination of a mode and the rules that apply in it
once. It is exact: it finds a contradiction if and only if there is one in a mode that can be
entered from the top level, however deep.
-/

namespace CodeViewer

open CompiledRule

/-- The rules that apply in a mode, given by its number, as it is entered from the top level
through modes that are open. -/
inductive Entered (rules : List CompiledRule) : Nat → List CompiledRule → Prop
  | top : Entered rules 0 rules
  | inner {id : Nat} {visible : List CompiledRule} {r : CompiledRule} :
      Entered rules id visible → r ∈ visible → r.opensMode = true →
        Entered rules r.id (innerRules r visible)

/-- The modes that can be entered where rules apply, each with the rules that apply in it. -/
def enteredFrom (visible : List CompiledRule) : List (Nat × List CompiledRule) :=
  (visible.filter (·.opensMode)).map (fun r ↦ (r.id, innerRules r visible))

/-- The combination of a mode and the set of rules that apply in it. -/
def combination (p : Nat × List CompiledRule) : Nat × Nat := (p.1, ruleSet p.2)

/-- A mode can be entered, up to the order of the rules that apply in it. -/
def CanEnter (rules : List CompiledRule) (p : Nat × List CompiledRule) : Prop :=
  ∃ visible, Entered rules p.1 visible ∧ SameRules p.2 visible

variable {rules visible : List CompiledRule} {id : Nat}

/-- In a mode that can be entered rules of the forest apply. -/
theorem Entered.isEntrance (h : Entered rules id visible) : IsEntrance rules id visible := by
  induction h with
  | top => exact ⟨.inl rfl, fun r hr ↦ mem_flattenAll hr⟩
  | @inner id visible r _ hr _ ih =>
    have hrule := ih.within r hr
    exact ⟨.inr ⟨r, hrule, rfl⟩, ih.within.innerRules hrule⟩

/-- The same holds whatever the order of the rules. -/
theorem CanEnter.isEntrance (h : CanEnter rules (id, visible)) : IsEntrance rules id visible := by
  obtain ⟨entered, hentered, hsame⟩ := h
  exact ⟨hentered.isEntrance.mode, hsame.within.mpr hentered.isEntrance.within⟩

private theorem CanEnter.enteredFrom (h : CanEnter rules (id, visible))
    {p : Nat × List CompiledRule}
    (hp : p ∈ enteredFrom visible) : CanEnter rules p := by
  obtain ⟨entered, hentered, hsame⟩ := h
  obtain ⟨r, hr, rfl⟩ := List.mem_map.mp hp
  obtain ⟨hmem, hopens⟩ := List.mem_filter.mp hr
  exact ⟨innerRules r entered, hentered.inner ((hsame r).mp hmem) hopens, hsame.innerRules r⟩

private theorem CanEnter.uniqueRules (hn : Numbered rules) (h : CanEnter rules (id, visible)) :
    CanEnter rules (id, uniqueRules visible) := by
  have hunique := sameRules_uniqueRules hn h.isEntrance.within
  obtain ⟨entered, hentered, hsame⟩ := h
  exact ⟨entered, hentered, fun r ↦ (hunique r).trans (hsame r)⟩

private theorem CanEnter.combination_eq (hn : Numbered rules) (h : CanEnter rules (id, visible)) :
    combination (id, visible) = (id, ruleSet (CodeViewer.uniqueRules visible)) := by
  rw [combination, (sameRules_uniqueRules hn h.isEntrance.within).ruleSet_eq]

/-! ### What has been followed -/

/-- The combinations that have been followed or will be. -/
def covered (pending : List (Nat × List CompiledRule)) (seen : List (Nat × Nat)) :
    List (Nat × Nat) :=
  seen ++ pending.map combination

variable {pending more : List (Nat × List CompiledRule)} {seen : List (Nat × Nat)}

/-- A pending mode that has been followed may be left out. -/
theorem covered_skip {p : Nat × List CompiledRule} (hp : combination p ∈ seen) :
    covered (p :: pending) seen ⊆ covered pending seen := by
  intro key hkey
  rw [covered, List.map_cons, List.mem_append, List.mem_cons] at hkey
  rcases hkey with hkey | rfl | hkey
  · exact List.mem_append_left _ hkey
  · exact List.mem_append_left _ hp
  · exact List.mem_append_right _ hkey

/-- A pending mode that is followed stays covered. -/
theorem covered_follow {p : Nat × List CompiledRule} :
    covered (p :: pending) seen ⊆ covered (more ++ pending) (combination p :: seen) := by
  intro key hkey
  rw [covered, List.map_cons, List.mem_append, List.mem_cons] at hkey
  rw [covered, List.map_append, List.mem_append, List.mem_cons, List.mem_append]
  rcases hkey with hkey | hkey | hkey
  · exact .inl (.inr hkey)
  · exact .inl (.inl hkey)
  · exact .inr (.inr hkey)

/-- The state of the search. Each combination has been followed once, its rules agree, and the
modes entered from it have been followed or are pending. -/
structure Followed (rules : List CompiledRule) (pending : List (Nat × List CompiledRule))
    (seen : List (Nat × Nat)) : Prop where
  enterable : ∀ p ∈ pending, CanEnter rules p
  nodup : seen.Nodup
  closed : ∀ key ∈ seen, ∃ visible, IsEntrance rules key.1 visible ∧ ruleSet visible = key.2 ∧
    Agree visible ∧ ∀ p ∈ enteredFrom visible, combination p ∈ covered pending seen

private theorem Followed.length_le (h : Followed rules pending seen) :
    seen.length ≤ ((flattenAll rules).length + 1) * 2 ^ (flattenAll rules).length := by
  refine combinations_length_le h.nodup fun key hkey ↦ ?_
  obtain ⟨visible, hentrance, hset, -⟩ := h.closed key hkey
  exact ⟨visible, hentrance, hset⟩

private theorem Followed.skip {p : Nat × List CompiledRule} (h : Followed rules (p :: pending) seen)
    (hp : combination p ∈ seen) : Followed rules pending seen := by
  refine ⟨fun q hq ↦ h.enterable q (List.mem_cons_of_mem p hq), h.nodup, fun key hkey ↦ ?_⟩
  obtain ⟨visible, hentrance, hset, hagree, hinner⟩ := h.closed key hkey
  exact ⟨visible, hentrance, hset, hagree, fun q hq ↦ covered_skip hp (hinner q hq)⟩

private theorem Followed.follow (hn : Numbered rules)
    (h : Followed rules ((id, visible) :: pending) seen)
    (hnew : combination (id, visible) ∉ seen) (hagree : Agree (uniqueRules visible)) :
    Followed rules (enteredFrom (uniqueRules visible) ++ pending)
      (combination (id, visible) :: seen) := by
  have hcan : CanEnter rules (id, visible) := h.enterable _ List.mem_cons_self
  have hunique := hcan.uniqueRules hn
  refine ⟨fun p hp ↦ ?_, List.nodup_cons.mpr ⟨hnew, h.nodup⟩, fun key hkey ↦ ?_⟩
  · rcases List.mem_append.mp hp with hp | hp
    · exact hunique.enteredFrom hp
    · exact h.enterable p (List.mem_cons_of_mem _ hp)
  · rcases List.mem_cons.mp hkey with rfl | hkey
    · rw [hcan.combination_eq hn]
      refine ⟨uniqueRules visible, hunique.isEntrance, rfl, hagree, fun p hp ↦ ?_⟩
      rw [covered, List.map_append]
      exact List.mem_append_right _ (List.mem_append_left _ (List.mem_map_of_mem hp))
    · obtain ⟨inner, hentrance, hset, hagree, hinner⟩ := h.closed key hkey
      exact ⟨inner, hentrance, hset, hagree, fun p hp ↦ covered_follow (hinner p hp)⟩

private theorem Followed.of_mem (hn : Numbered rules) (h : Followed rules [] seen)
    (hwithin : Within rules visible) (hmem : combination (id, visible) ∈ seen) :
    Agree visible ∧ ∀ r ∈ visible, r.opensMode = true →
      combination (r.id, innerRules r visible) ∈ seen := by
  obtain ⟨followed, hentrance, hset, hagree, hinner⟩ := h.closed _ hmem
  have hsame := sameRules_of_ruleSet_eq hn hentrance.within hwithin hset
  refine ⟨hsame.agree.mp hagree, fun r hr hopens ↦ ?_⟩
  have hfrom : (r.id, innerRules r followed) ∈ enteredFrom followed :=
    List.mem_map.mpr ⟨r, List.mem_filter.mpr ⟨(hsame r).mpr hr, hopens⟩, rfl⟩
  have hcovered := hinner _ hfrom
  rw [covered, List.map_nil, List.append_nil] at hcovered
  rw [combination, ← (hsame.innerRules r).ruleSet_eq]
  exact hcovered

/-- Once nothing is pending, all modes that can be entered have been followed if the top level
has. -/
theorem Followed.mem (hn : Numbered rules) (h : Followed rules [] seen)
    (htop : combination (0, rules) ∈ seen) (hentered : Entered rules id visible) :
    combination (id, visible) ∈ seen := by
  induction hentered with
  | top => exact htop
  | inner houter hr hopens ih => exact (h.of_mem hn houter.isEntrance.within ih).2 _ hr hopens

/-! ### The search -/

/-- How many more modes can come up: those pending, and for each combination that has not been
followed one for each rule. -/
def outstanding (rules : List CompiledRule) (pending : List (Nat × List CompiledRule))
    (seen : List (Nat × Nat)) : Nat :=
  pending.length + (((flattenAll rules).length + 1) * 2 ^ (flattenAll rules).length
    - seen.length) * (flattenAll rules).length

private theorem outstanding_skip_lt {p : Nat × List CompiledRule} :
    outstanding rules pending seen < outstanding rules (p :: pending) seen := by
  rw [outstanding, outstanding, List.length_cons]
  omega

private theorem outstanding_follow_lt (hn : Numbered rules) (hvisible : Within rules visible)
    (hfollowed : Followed rules (enteredFrom (uniqueRules visible) ++ pending)
      (combination (id, visible) :: seen)) :
    outstanding rules (enteredFrom (uniqueRules visible) ++ pending)
        (combination (id, visible) :: seen) <
      outstanding rules ((id, visible) :: pending) seen := by
  have hseen := hfollowed.length_le
  have hentered : (enteredFrom (uniqueRules visible)).length ≤ (flattenAll rules).length := by
    rw [enteredFrom, List.length_map]
    exact (List.length_filter_le _ _).trans (length_uniqueRules_le hn hvisible)
  simp only [outstanding, List.length_append, List.length_cons] at hseen ⊢
  generalize ((flattenAll rules).length + 1) * 2 ^ (flattenAll rules).length = all at hseen ⊢
  have hleft : all - seen.length = all - (seen.length + 1) + 1 := by omega
  rw [hleft, Nat.add_mul, Nat.one_mul]
  omega

/-- What holds of a search that has nothing left to do, and of one that goes on if it does of the
rest, holds of every search. The steps it is allowed do not run out. -/
theorem exploreModes_induction (hn : Numbered rules)
    {P : List (Nat × List CompiledRule) → List (Nat × Nat) → Option Contradiction → Prop}
    (complete : ∀ seen, Followed rules [] seen → P [] seen none)
    (skip : ∀ id visible pending seen c?, CanEnter rules (id, visible) →
      combination (id, visible) ∈ seen → P pending seen c? →
      P ((id, visible) :: pending) seen c?)
    (found : ∀ id visible pending seen c, CanEnter rules (id, visible) →
      combination (id, visible) ∉ seen → contradiction? [] (uniqueRules visible) = some c →
      P ((id, visible) :: pending) seen (some c))
    (follow : ∀ id visible pending seen c?, CanEnter rules (id, visible) →
      combination (id, visible) ∉ seen → contradiction? [] (uniqueRules visible) = none →
      P (enteredFrom (uniqueRules visible) ++ pending) (combination (id, visible) :: seen) c? →
      P ((id, visible) :: pending) seen c?)
    {fuel : Nat} (hfollowed : Followed rules pending seen)
    (hfuel : outstanding rules pending seen < fuel) :
    P pending seen (exploreModes fuel pending seen) := by
  fun_induction exploreModes fuel pending seen with
  | case1 => omega
  | case2 seen fuel => exact complete seen hfollowed
  | case3 fuel id visible pending seen unique key hkey ih =>
    have hcan : CanEnter rules (id, visible) := hfollowed.enterable _ List.mem_cons_self
    have hmem : combination (id, visible) ∈ seen := by
      rw [hcan.combination_eq hn]
      exact List.contains_iff_mem.mp hkey
    have hless : outstanding rules pending seen < fuel :=
      Nat.lt_of_lt_of_le outstanding_skip_lt (Nat.le_of_lt_succ hfuel)
    exact skip id visible pending seen _ hcan hmem (ih (hfollowed.skip hmem) hless)
  | case4 fuel id visible pending seen unique key hkey c hc =>
    have hcan : CanEnter rules (id, visible) := hfollowed.enterable _ List.mem_cons_self
    refine found id visible pending seen c hcan ?_ hc
    rw [hcan.combination_eq hn]
    exact fun hmem ↦ hkey (List.contains_iff_mem.mpr hmem)
  | case5 fuel id visible pending seen unique key hkey hc entered ih =>
    have hcan : CanEnter rules (id, visible) := hfollowed.enterable _ List.mem_cons_self
    have hhead : combination (id, visible) = key := hcan.combination_eq hn
    have hnew : combination (id, visible) ∉ seen := by
      rw [hhead]
      exact fun hmem ↦ hkey (List.contains_iff_mem.mpr hmem)
    have hnext := hfollowed.follow hn hnew (contradiction?_eq_none_iff.mp hc)
    have hless := outstanding_follow_lt hn hcan.isEntrance.within hnext
    refine follow id visible pending seen _ hcan hnew hc ?_
    rw [hhead] at hnext hless ⊢
    exact ih hnext (Nat.lt_of_lt_of_le hless (Nat.le_of_lt_succ hfuel))

/-- A contradiction that is found is one between rules of a mode that can be entered. -/
theorem exploreModes_eq_some (hn : Numbered rules) {fuel : Nat} {c : Contradiction}
    (hfollowed : Followed rules pending seen) (hfuel : outstanding rules pending seen < fuel)
    (h : exploreModes fuel pending seen = some c) :
    ∃ id visible, Entered rules id visible ∧ ¬ Agree visible := by
  refine exploreModes_induction hn
    (P := fun _ _ c? ↦ c? = some c → ∃ id visible, Entered rules id visible ∧ ¬ Agree visible)
    ?complete ?skip ?found ?follow hfollowed hfuel h
  case complete =>
    intro _ _ h
    cases h
  case skip =>
    intro _ _ _ _ _ _ _ hrest
    exact hrest
  case found =>
    intro id visible _ _ c hcan _ hc _
    obtain ⟨entered, hentered, hsame⟩ := hcan.uniqueRules hn
    refine ⟨id, entered, hentered, ?_⟩
    intro hagree
    rw [contradiction?_eq_none_iff.mpr (hsame.agree.mpr hagree)] at hc
    cases hc
  case follow =>
    intro _ _ _ _ _ _ _ _ hrest
    exact hrest

/-- A search that finds nothing follows all that is pending to the end. -/
theorem exploreModes_eq_none (hn : Numbered rules) {fuel : Nat}
    (hfollowed : Followed rules pending seen) (hfuel : outstanding rules pending seen < fuel)
    (h : exploreModes fuel pending seen = none) :
    ∃ all, Followed rules [] all ∧ covered pending seen ⊆ all := by
  refine exploreModes_induction hn
    (P := fun pending seen c? ↦ c? = none →
      ∃ all, Followed rules [] all ∧ covered pending seen ⊆ all)
    ?complete ?skip ?found ?follow hfollowed hfuel h
  case complete =>
    intro seen hseen _
    exact ⟨seen, hseen, by simp [covered]⟩
  case skip =>
    intro id visible pending seen c? _ hmem hrest hnone
    obtain ⟨all, hall, hin⟩ := hrest hnone
    exact ⟨all, hall, List.Subset.trans (covered_skip hmem) hin⟩
  case found =>
    intro _ _ _ _ _ _ _ _ h
    cases h
  case follow =>
    intro id visible pending seen c? _ _ _ hrest hnone
    obtain ⟨all, hall, hin⟩ := hrest hnone
    exact ⟨all, hall, List.Subset.trans covered_follow hin⟩

/-- The search starts at the top level, with nothing followed. -/
theorem followed_start (rules : List CompiledRule) : Followed rules [(0, rules)] [] := by
  refine ⟨fun p hp ↦ ?_, List.nodup_nil, fun key hkey ↦ absurd hkey List.not_mem_nil⟩
  rw [List.mem_singleton.mp hp]
  exact ⟨rules, .top, fun r ↦ .rfl⟩

/-- At the start no more modes can come up than the search allows for. -/
theorem outstanding_start_lt (rules : List CompiledRule) :
    outstanding rules [(0, rules)] [] < explorationBound (flattenAll rules).length := by
  simp only [outstanding, explorationBound, List.length_singleton, List.length_nil, Nat.sub_zero,
    Nat.pow_eq]
  omega

/-- The search is exact: it finds nothing exactly if the rules of every mode that can be entered
agree. -/
theorem findContradiction_eq_none_iff (hn : Numbered rules) :
    findContradiction rules = none ↔ ∀ id visible, Entered rules id visible → Agree visible := by
  have hstart := followed_start rules
  have hfuel := outstanding_start_lt rules
  constructor
  · intro h id visible hentered
    obtain ⟨all, hall, hin⟩ := exploreModes_eq_none hn hstart hfuel h
    have hmem := hall.mem hn (hin (by simp [covered])) hentered
    exact (hall.of_mem hn hentered.isEntrance.within hmem).1
  · intro h
    cases hfind : findContradiction rules with
    | none => rfl
    | some c =>
      obtain ⟨id, visible, hentered, hdiffer⟩ := exploreModes_eq_some hn hstart hfuel hfind
      exact absurd (h id visible hentered) hdiffer

end CodeViewer
