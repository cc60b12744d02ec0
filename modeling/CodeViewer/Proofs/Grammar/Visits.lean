import CodeViewer.Proofs.Grammar.Exploration
import CodeViewer.Proofs.Grammar.ModeKey
import Mathlib.Logic.Relation

/-!
# Visiting the modes of a grammar

The search for contradictions can be told as a recursion: a visit of a mode visits the modes that
are entered from it, unless the key of the mode has been seen before. The recursion follows modes
as they are inherited, so that the tree of the rules does not bound it, and nothing in its
definition says that it comes to an end. It does, because each visit that goes on adds a key to
those seen, and a forest has finitely many keys.
-/

namespace CodeViewer

open CompiledRule

/-- A recursion that may be cut short by a contradiction and is none if it does not come to an
end. -/
abbrev Visiting (α : Type) : Type := ExceptT Contradiction Option α

/-- A visit of a mode: the number of the mode, the rules that apply in it and the keys seen
before. -/
structure ModeVisit where
  id : Nat
  rules : List CompiledRule
  seen : List String

/-- What a visit comes to. The modes entered from its own are visited too, each of which begins with
the keys that the one before leaves. -/
def ModeVisit.result (v : ModeVisit) : Visiting (List String) := do
  let visible := uniqueRules v.rules
  let key := modeKey v.id visible
  if key ∈ v.seen then return v.seen
  match contradiction? [] visible with
  | some c => throw c
  | none =>
    (visible.filter (·.opensMode)).foldlM
      (fun seen r ↦ ModeVisit.mk r.id (innerRules r visible) seen |>.result) (key :: v.seen)
partial_fixpoint

/-- Visit a mode, given by its number and the rules that apply in it. -/
def visitMode (id : Nat) (rules : List CompiledRule) (seen : List String) :
    Visiting (List String) := (ModeVisit.mk id rules seen).result

/-- Visit modes one after the other. -/
def visitModes (modes : List (Nat × List CompiledRule)) (seen : List String) :
    Visiting (List String) :=
  modes.foldlM (fun seen p ↦ visitMode p.1 p.2 seen) seen

variable {rules visible : List CompiledRule} {id : Nat} {seen all : List String}
  {modes : List (Nat × List CompiledRule)}

/-! ### What a visit does -/

private theorem visitMode_of_mem (h : modeKey id (uniqueRules visible) ∈ seen) :
    visitMode id visible seen = pure seen := by
  rw [visitMode, ModeVisit.result, if_pos h]

private theorem visitMode_of_some {c : Contradiction} (h : modeKey id (uniqueRules visible) ∉ seen)
    (hc : contradiction? [] (uniqueRules visible) = some c) :
    visitMode id visible seen = throw c := by
  rw [visitMode, ModeVisit.result, if_neg h, hc]

private theorem visitMode_of_none (h : modeKey id (uniqueRules visible) ∉ seen)
    (hc : contradiction? [] (uniqueRules visible) = none) :
    visitMode id visible seen =
      visitModes (enteredFrom (uniqueRules visible))
        (modeKey id (uniqueRules visible) :: seen) := by
  rw [visitMode, ModeVisit.result, if_neg h, hc, visitModes, enteredFrom, List.foldlM_map]
  rfl

private theorem visitModes_cons {p : Nat × List CompiledRule} :
    visitModes (p :: modes) seen = visitMode p.1 p.2 seen >>= visitModes modes :=
  List.foldlM_cons

private theorem visitModes_append {more : List (Nat × List CompiledRule)} :
    visitModes (modes ++ more) seen = visitModes modes seen >>= visitModes more :=
  List.foldlM_append

private theorem visitModes_singleton {p : Nat × List CompiledRule} :
    visitModes [p] seen = visitMode p.1 p.2 seen := by
  rw [visitModes_cons]
  exact bind_pure _

/-! ### How a visit ends -/

private theorem Visiting.pure_inj {α : Type} {a b : α} :
    (pure a : Visiting α) = pure b ↔ a = b := by
  constructor
  · intro h
    exact Except.ok.inj (Option.some.inj h)
  · rintro rfl
    rfl

private theorem Visiting.bind_eq_pure {α β : Type} {x : Visiting α} {f : α → Visiting β} {b : β} :
    x >>= f = pure b ↔ ∃ a, x = pure a ∧ f a = pure b := by
  constructor
  · intro h
    match x with
    | none => cases h
    | some (.error c) => cases h
    | some (.ok a) => exact ⟨a, rfl, h⟩
  · rintro ⟨a, rfl, h⟩
    exact h

/-- The recursion comes to an end. Unless a contradiction is found, the keys seen before are seen
behind it. -/
def Ends (seen : List String) (x : Visiting (List String)) : Prop :=
  ∃ outcome, x.run = some outcome ∧ ∀ all, outcome = .ok all → seen ⊆ all

namespace Ends

variable {x : Visiting (List String)} {f : List String → Visiting (List String)}

private theorem pure (h : seen ⊆ all) : Ends seen (pure all) := by
  refine ⟨.ok all, rfl, ?_⟩
  rintro _ ⟨⟩
  exact h

private theorem throw (c : Contradiction) : Ends seen (throw c) := by
  refine ⟨.error c, rfl, ?_⟩
  rintro _ ⟨⟩

private theorem bind (h : Ends seen x) (hf : ∀ all, seen ⊆ all → Ends all (f all)) :
    Ends seen (x >>= f) := by
  obtain ⟨outcome, hx, hall⟩ := h
  cases outcome with
  | error c =>
    refine ⟨.error c, ?_, ?_⟩
    · rw [ExceptT.run_bind, hx]
      rfl
    · rintro _ ⟨⟩
  | ok all =>
    obtain ⟨outcome, hrun, hmore⟩ := hf all (hall all rfl)
    refine ⟨outcome, ?_, ?_⟩
    · rw [ExceptT.run_bind, hx]
      exact hrun
    · intro more hok
      exact List.Subset.trans (hall all rfl) (hmore more hok)

private theorem subset (h : Ends seen x) (hx : x = Pure.pure all) : seen ⊆ all := by
  obtain ⟨outcome, hrun, hall⟩ := h
  rw [hx] at hrun
  exact hall all (Option.some.inj hrun).symm

end Ends

/-- Modes are visited to the end if each of them is, whatever has been seen before it. -/
theorem visitModes_ends
    (h : ∀ p ∈ modes, ∀ all, seen ⊆ all → Ends all (visitMode p.1 p.2 all)) :
    Ends seen (visitModes modes seen) := by
  induction modes generalizing seen with
  | nil => exact .pure (List.Subset.refl seen)
  | cons p modes ih =>
    rw [visitModes_cons]
    apply (h p List.mem_cons_self seen (List.Subset.refl seen)).bind
    intro all hall
    apply ih
    intro q hq more hmore
    exact h q (List.mem_cons_of_mem p hq) more (List.Subset.trans hall hmore)

/-! ### Keys that are left -/

/-- How many keys of a forest have not been seen. -/
def unseen (rules : List CompiledRule) (seen : List String) : Nat :=
  ((forestKeys rules).filter (· ∉ seen)).card

private theorem unseen_lt {key : String} (hkey : key ∈ forestKeys rules) (hnew : key ∉ seen)
    (hall : key :: seen ⊆ all) : unseen rules all < unseen rules seen := by
  apply Finset.card_lt_card
  refine Finset.ssubset_iff_of_subset ?_ |>.mpr ⟨key, ?_, ?_⟩
  · intro k hk
    rw [Finset.mem_filter] at hk ⊢
    exact ⟨hk.1, fun hseen ↦ hk.2 (hall (List.mem_cons_of_mem key hseen))⟩
  · exact Finset.mem_filter.mpr ⟨hkey, hnew⟩
  · intro hk
    exact (Finset.mem_filter.mp hk).2 (hall List.mem_cons_self)

private theorem IsEntrance.uniqueRules (hn : Numbered rules) (h : IsEntrance rules id visible) :
    IsEntrance rules id (uniqueRules visible) :=
  ⟨h.mode, (sameRules_uniqueRules hn h.within).within.mpr h.within⟩

private theorem IsEntrance.enteredFrom (h : IsEntrance rules id visible)
    {p : Nat × List CompiledRule}
    (hp : p ∈ enteredFrom visible) : IsEntrance rules p.1 p.2 := by
  obtain ⟨r, hr, rfl⟩ := List.mem_map.mp hp
  have hrule := h.within r (List.mem_filter.mp hr).1
  exact ⟨.inr ⟨r, hrule, rfl⟩, h.within.innerRules hrule⟩

/-- A visit of a mode of a forest comes to an end, whatever has been seen before. -/
theorem visitMode_ends (hn : Numbered rules) (h : IsEntrance rules id visible) :
    Ends seen (visitMode id visible seen) := by
  -- The modes that are entered may be any of the forest: only the keys that are left get fewer.
  induction hleft : unseen rules seen using Nat.strong_induction_on
    generalizing id visible seen with
  | h left ih =>
    by_cases hkey : modeKey id (uniqueRules visible) ∈ seen
    · rw [visitMode_of_mem hkey]
      exact .pure (List.Subset.refl seen)
    · cases hc : contradiction? [] (uniqueRules visible) with
      | some c =>
        rw [visitMode_of_some hkey hc]
        exact .throw c
      | none =>
        rw [visitMode_of_none hkey hc]
        have hinner : Ends (modeKey id (uniqueRules visible) :: seen)
            (visitModes (enteredFrom (uniqueRules visible))
              (modeKey id (uniqueRules visible) :: seen)) := by
          apply visitModes_ends
          intro p hp all hall
          have hfewer := unseen_lt (mem_forestKeys hn h) hkey hall
          rw [hleft] at hfewer
          exact ih _ hfewer ((h.uniqueRules hn).enteredFrom hp) rfl
        obtain ⟨outcome, hrun, hall⟩ := hinner
        refine ⟨outcome, hrun, ?_⟩
        intro all hok
        exact List.Subset.trans (List.subset_cons_self _ seen) (hall all hok)

/-! ### The visits that a visit makes -/

namespace ModeVisit

/-- The key of the mode that is visited. -/
def key (v : ModeVisit) : String := modeKey v.id (uniqueRules v.rules)

/-- The mode is one of a forest, and so are the rules that apply in it. -/
def BelongsTo (v : ModeVisit) (rules : List CompiledRule) : Prop := IsEntrance rules v.id v.rules

/-- The visits that a visit makes itself: those of the modes entered from its own, each of which
begins with the keys that the ones before leave. -/
inductive Makes : ModeVisit → ModeVisit → Prop where
  | inner {v : ModeVisit} {before after : List (Nat × List CompiledRule)}
      {p : Nat × List CompiledRule} {all : List String} :
      v.key ∉ v.seen → contradiction? [] (uniqueRules v.rules) = none →
      enteredFrom (uniqueRules v.rules) = before ++ p :: after →
      visitModes before (v.key :: v.seen) = pure all → Makes v ⟨p.1, p.2, all⟩

/-- A visit that makes others adds its key, which is new. They stay within the forest. -/
theorem Makes.adds {v w : ModeVisit} (hn : Numbered rules) (hv : v.BelongsTo rules)
    (h : v.Makes w) : w.BelongsTo rules ∧ v.key ∉ v.seen ∧ v.key :: v.seen ⊆ w.seen := by
  cases h with
  | @inner before after p all hnew _ hentered hbefore =>
    have hinner (q : Nat × List CompiledRule) (hq : q ∈ before ++ p :: after) :
        IsEntrance rules q.1 q.2 :=
      (IsEntrance.uniqueRules hn hv).enteredFrom (hentered ▸ hq)
    refine ⟨hinner p (by simp), hnew, ?_⟩
    have hends : Ends (v.key :: v.seen) (visitModes before (v.key :: v.seen)) := by
      apply visitModes_ends
      intro q hq more _
      exact visitMode_ends hn (hinner q (by simp [hq]))
    exact hends.subset hbefore

/-- The first of the visits that a visit makes itself. -/
def first? (v : ModeVisit) : Option ModeVisit :=
  if v.key ∈ v.seen || (contradiction? [] (uniqueRules v.rules)).isSome then none
  else (enteredFrom (uniqueRules v.rules)).head?.map
    fun p ↦ ⟨p.1, p.2, v.key :: v.seen⟩

private theorem Makes.of_first? {v w : ModeVisit} (h : v.first? = some w) : v.Makes w := by
  unfold first? at h
  split at h
  · cases h
  · next hgoesOn =>
    simp only [Bool.or_eq_true, decide_eq_true_eq, not_or, Option.not_isSome_iff_eq_none]
      at hgoesOn
    obtain ⟨p, hp, rfl⟩ := Option.map_eq_some_iff.mp h
    obtain ⟨after, hafter⟩ := List.head?_eq_some_iff.mp hp
    exact @Makes.inner v [] after p _ hgoesOn.1 hgoesOn.2 hafter rfl

/-- Visits do not nest without end. -/
theorem wellFounded_makes (hn : Numbered rules) :
    WellFounded fun w v : ModeVisit ↦ v.BelongsTo rules ∧ v.Makes w := by
  apply Subrelation.wf ?_ (measure fun v : ModeVisit ↦ unseen rules v.seen).wf
  rintro w v ⟨hv, hmakes⟩
  obtain ⟨-, hnew, hseen⟩ := hmakes.adds hn hv
  exact unseen_lt (mem_forestKeys hn hv) hnew hseen

end ModeVisit

/-! ### The search and the visits -/

/-- The keys seen are those of the combinations that have been followed. -/
def Prints (rules : List CompiledRule) (seen : List String) (followed : List (Nat × Nat)) : Prop :=
  ∀ id visible, IsEntrance rules id visible →
    (modeKey id (uniqueRules visible) ∈ seen ↔ combination (id, visible) ∈ followed)

/-- A key stands for a combination. -/
theorem modeKey_eq_iff_combination {id' : Nat} {visible' : List CompiledRule} (hn : Numbered rules)
    (h : Within rules visible) (h' : Within rules visible') :
    modeKey id (uniqueRules visible) = modeKey id' (uniqueRules visible') ↔
      combination (id, visible) = combination (id', visible') := by
  rw [modeKey_eq_iff hn h h', combination, combination, Prod.mk.injEq]
  apply and_congr_right
  intro _
  exact ⟨SameRules.ruleSet_eq, sameRules_of_ruleSet_eq hn h h'⟩

variable {pending : List (Nat × List CompiledRule)} {followed : List (Nat × Nat)}

private theorem Prints.cons (hn : Numbered rules) (h : Prints rules seen followed)
    (hvisible : Within rules visible) :
    Prints rules (modeKey id (uniqueRules visible) :: seen)
      (combination (id, visible) :: followed) := by
  intro id' visible' hentrance
  rw [List.mem_cons, List.mem_cons, h id' visible' hentrance,
    modeKey_eq_iff_combination hn hentrance.within hvisible]

/-- What visits come to if a search for contradictions has an answer. A search that finds nothing
follows what is seen. -/
def VisitsAs (rules : List CompiledRule) (pending : List (Nat × List CompiledRule))
    (seen : List String) (followed : List (Nat × Nat)) : Option Contradiction → Prop
  | some c => visitModes pending seen = throw c
  | none => ∃ all followedAll, visitModes pending seen = pure all ∧ Followed rules [] followedAll ∧
      Prints rules all followedAll ∧ covered pending followed ⊆ followedAll

private theorem VisitsAs.mono {pending' : List (Nat × List CompiledRule)} {seen' : List String}
    {followed' : List (Nat × Nat)} {c? : Option Contradiction}
    (h : VisitsAs rules pending' seen' followed' c?)
    (hcovered : covered pending followed ⊆ covered pending' followed')
    (heq : visitModes pending seen = visitModes pending' seen') :
    VisitsAs rules pending seen followed c? := by
  cases c? with
  | some c => exact heq.trans h
  | none =>
    obtain ⟨all, followedAll, hvisits, hall, hprints, hin⟩ := h
    exact ⟨all, followedAll, heq.trans hvisits, hall, hprints, List.Subset.trans hcovered hin⟩

/-- The search answers as the visits do. -/
theorem visitsAs_exploreModes (hn : Numbered rules) {fuel : Nat}
    (hfollowed : Followed rules pending followed)
    (hfuel : outstanding rules pending followed < fuel) (hprints : Prints rules seen followed) :
    VisitsAs rules pending seen followed (exploreModes fuel pending followed) := by
  have hkey {id : Nat} {visible : List CompiledRule} {followed : List (Nat × Nat)}
      {seen : List String} (hprints : Prints rules seen followed)
      (hcan : CanEnter rules (id, visible)) :
      modeKey id (uniqueRules visible) ∈ seen ↔ combination (id, visible) ∈ followed :=
    hprints id visible hcan.isEntrance
  refine exploreModes_induction hn
    (P := fun pending followed c? ↦ ∀ seen, Prints rules seen followed →
      VisitsAs rules pending seen followed c?)
    ?complete ?skip ?found ?follow hfollowed hfuel seen hprints
  case complete =>
    intro followed hfollowed seen hprints
    exact ⟨seen, followed, rfl, hfollowed, hprints, by simp [covered]⟩
  case skip =>
    intro id visible pending followed c? hcan hmem hrest seen hprints
    apply (hrest seen hprints).mono (covered_skip hmem)
    rw [visitModes_cons, visitMode_of_mem ((hkey hprints hcan).mpr hmem), pure_bind]
  case found =>
    intro id visible pending followed c hcan hnew hc seen hprints
    have hkeyNew := mt (hkey hprints hcan).mp hnew
    change visitModes ((id, visible) :: pending) seen = throw c
    rw [visitModes_cons, visitMode_of_some hkeyNew hc]
    rfl
  case follow =>
    intro id visible pending followed c? hcan hnew hc hrest seen hprints
    have hkeyNew := mt (hkey hprints hcan).mp hnew
    apply (hrest _ (hprints.cons hn hcan.isEntrance.within)).mono covered_follow
    rw [visitModes_cons, visitMode_of_none hkeyNew hc, visitModes_append]

/-- The search of a grammar answers as a visit of its top level does. -/
theorem visitsAs_findContradiction (hn : Numbered rules) :
    VisitsAs rules [(0, rules)] [] [] (findContradiction rules) := by
  apply visitsAs_exploreModes hn (followed_start rules) (outstanding_start_lt rules)
  intro id visible _
  exact iff_of_false List.not_mem_nil List.not_mem_nil

/-- A visit of the top level comes to an end, and finds what the search finds. -/
theorem visitMode_top (hn : Numbered rules) :
    (∃ all, visitMode 0 rules [] = pure all ∧ findContradiction rules = none) ∨
      ∃ c, visitMode 0 rules [] = throw c ∧ findContradiction rules = some c := by
  have h := visitsAs_findContradiction hn
  cases hfind : findContradiction rules with
  | some c =>
    rw [hfind, VisitsAs, visitModes_singleton] at h
    exact .inr ⟨c, h, rfl⟩
  | none =>
    rw [hfind] at h
    obtain ⟨all, -, hvisit, -⟩ := h
    rw [visitModes_singleton] at hvisit
    exact .inl ⟨all, hvisit, rfl⟩

/-! ### Modes that are examined -/

namespace ModeVisit

variable {v : ModeVisit}

/-- The mode of a key is examined in a visit or in one that it makes, however deep. -/
def Examines (v : ModeVisit) (k : String) : Prop :=
  ∃ w, Relation.ReflTransGen Makes v w ∧ w.key ∉ w.seen ∧ w.key = k

private theorem mem_of_visitModes {P : String → Prop} (hnew : v.key ∉ v.seen)
    (hc : contradiction? [] (uniqueRules v.rules) = none)
    (hmade : ∀ w, v.Makes w → ∀ all, w.result = pure all → ∀ k ∈ all, k ∈ w.seen ∨ P k)
    {before after : List (Nat × List CompiledRule)} {mid : List String}
    (hfrom : enteredFrom (uniqueRules v.rules) = before ++ after)
    (hbefore : visitModes before (v.key :: v.seen) = pure mid)
    (hafter : visitModes after mid = pure all) {k : String} (hk : k ∈ all) : k ∈ mid ∨ P k := by
  induction after generalizing before mid with
  | nil =>
    rw [Visiting.pure_inj.mp hafter]
    exact .inl hk
  | cons p after ih =>
    rw [visitModes_cons, Visiting.bind_eq_pure] at hafter
    obtain ⟨next, hvisit, hafter⟩ := hafter
    have hfront : visitModes (before ++ [p]) (v.key :: v.seen) = pure next := by
      rw [visitModes_append, hbefore, pure_bind, visitModes_singleton, hvisit]
    rcases ih (by simpa using hfrom) hfront hafter with hnext | hP
    · exact hmade ⟨p.1, p.2, mid⟩ (.inner hnew hc hfrom hbefore) next hvisit k hnext
    · exact .inr hP

/-- A key that is seen behind a visit and was not seen before is that of a mode which is examined
in the visit or in one that it makes, however deep. -/
theorem exists_examined (hn : Numbered rules) (hv : v.BelongsTo rules) (h : v.result = pure all)
    {k : String} (hk : k ∈ all) : k ∈ v.seen ∨ v.Examines k := by
  induction v using (wellFounded_makes hn).induction generalizing all k with
  | _ v ih =>
    change visitMode v.id v.rules v.seen = pure all at h
    by_cases hkey : v.key ∈ v.seen
    · rw [visitMode_of_mem hkey, Visiting.pure_inj] at h
      exact .inl (h ▸ hk)
    · -- What a visit that is made adds is examined in it.
      have hinner (w : ModeVisit) (hmakes : v.Makes w) (all : List String)
          (hw : w.result = pure all) (k : String) (hk : k ∈ all) :
          k ∈ w.seen ∨ v.Examines k := by
        obtain hk | ⟨x, hx, hnew, rfl⟩ := ih w ⟨hv, hmakes⟩ (hmakes.adds hn hv).1 hw hk
        · exact .inl hk
        · exact .inr ⟨x, hx.head hmakes, hnew, rfl⟩
      cases hc : contradiction? [] (uniqueRules v.rules) with
      | some c =>
        rw [visitMode_of_some hkey hc] at h
        cases h
      | none =>
        rw [visitMode_of_none hkey hc] at h
        have hfrom : enteredFrom (uniqueRules v.rules) = [] ++ enteredFrom (uniqueRules v.rules) :=
          rfl
        have hstart : visitModes [] (v.key :: v.seen) = pure (v.key :: v.seen) := rfl
        rcases mem_of_visitModes hkey hc hinner hfrom hstart h hk with hk | hk
        · rcases List.mem_cons.mp hk with rfl | hk
          · exact .inr ⟨v, .refl, hkey, rfl⟩
          · exact .inl hk
        · exact .inr hk

private theorem BelongsTo.made {w : ModeVisit} (hn : Numbered rules) (hv : v.BelongsTo rules)
    (h : Relation.ReflTransGen Makes v w) : w.BelongsTo rules := by
  induction h with
  | refl => exact hv
  | tail _ hmakes ih => exact (hmakes.adds hn ih).1

/-- A visit that the search of a forest makes: that of the top level, or one that is made by
another. -/
def IsMade (v : ModeVisit) (rules : List CompiledRule) : Prop :=
  Relation.ReflTransGen Makes ⟨0, rules, []⟩ v

/-- The rules that a visit examines are those of a mode as it is entered, once each. -/
theorem IsMade.entered (hn : Numbered rules) (h : v.IsMade rules) :
    ∃ visible, Entered rules v.id visible ∧ uniqueRules v.rules = uniqueRules visible := by
  induction h with
  | refl => exact ⟨rules, .top, rfl⟩
  | tail _ hmakes ih =>
    obtain ⟨visible, hentered, hsame⟩ := ih
    cases hmakes with
    | @inner before after p _ _ _ hfrom _ =>
      have hp : p ∈ enteredFrom (uniqueRules visible) := by
        rw [← hsame, hfrom]
        simp
      obtain ⟨r, hr, rfl⟩ := List.mem_map.mp hp
      obtain ⟨hmem, hopens⟩ := List.mem_filter.mp hr
      have happlies := (sameRules_uniqueRules hn hentered.isEntrance.within r).mp hmem
      exact ⟨innerRules r visible, hentered.inner happlies hopens, uniqueRules_innerRules r visible⟩

end ModeVisit

/-- A search that finds no contradiction examines every mode that can be entered, with the rules
that apply in it. -/
theorem Entered.examined (hn : Numbered rules) (hnone : findContradiction rules = none)
    (h : Entered rules id visible) :
    ∃ v : ModeVisit, v.IsMade rules ∧ v.key ∉ v.seen ∧ v.id = id ∧ SameRules v.rules visible := by
  have hvisits := visitsAs_findContradiction hn
  rw [hnone] at hvisits
  obtain ⟨all, followed, hvisit, hfollowed, hprints, hcovered⟩ := hvisits
  rw [visitModes_singleton] at hvisit
  have htop : combination (0, rules) ∈ followed := hcovered (by simp [covered])
  have hkey := (hprints id visible h.isEntrance).mpr (hfollowed.mem hn htop h)
  have hbelongs : (ModeVisit.mk 0 rules []).BelongsTo rules := Entered.top.isEntrance
  rcases ModeVisit.exists_examined hn hbelongs hvisit hkey with hseen | ⟨v, hmade, hnew, heq⟩
  · exact absurd hseen List.not_mem_nil
  · have hv := hbelongs.made hn hmade
    obtain ⟨hid, hsame⟩ := (modeKey_eq_iff hn hv.within h.isEntrance.within).mp heq
    exact ⟨v, hmade, hnew, hid, hsame⟩

/-! ### The recursion ends -/

/-- The visits of the modes of a forest come to an end. -/
structure VisitsEnd (rules : List CompiledRule) : Prop where
  /-- A number is that of one mode: of a single rule, or of the top level. -/
  numbered : Numbered rules ∧ ∀ r ∈ flattenAll rules, r.id ≠ 0
  /-- There are no visits in visits without end. -/
  wellFounded : WellFounded fun w v : ModeVisit ↦ v.BelongsTo rules ∧ v.Makes w
  /-- A visit that makes others adds its key to those seen before, among which it was not, and
  stays within the forest. -/
  adds : ∀ v w : ModeVisit, v.BelongsTo rules → v.Makes w →
    w.BelongsTo rules ∧ v.key ∉ v.seen ∧ v.key :: v.seen ⊆ w.seen
  /-- Keys are different unless they are those of one mode with one set of rules. -/
  keys : ∀ v w : ModeVisit, v.BelongsTo rules → w.BelongsTo rules →
    (v.key = w.key ↔ v.id = w.id ∧ SameRules v.rules w.rules)
  /-- There are finitely many: no more than modes times sets of rules. -/
  finite : ∃ all : Finset String, (∀ v : ModeVisit, v.BelongsTo rules → v.key ∈ all) ∧
    all.card ≤ ((flattenAll rules).length + 1) * 2 ^ (flattenAll rules).length
  /-- Each visit comes to an end, whatever has been seen before it. -/
  ends : ∀ v : ModeVisit, v.BelongsTo rules → ∃ outcome, v.result.run = some outcome
  /-- That of the top level finds the contradiction that is reported, or none if none is. -/
  answer : (∃ all, visitMode 0 rules [] = pure all ∧ findContradiction rules = none) ∨
    ∃ c, visitMode 0 rules [] = throw c ∧ findContradiction rules = some c

/-- The check for contradictions terminates. However modes contain, inherit and enter each other,
a visit that goes on adds a new pair of a mode and a set of rules of the forest, told by its key. -/
theorem contradiction_check_terminates {grammar path : String} {top : Bool} {index n : Nat}
    {rs : List Rule} (h : compileRules grammar top path index 1 rs = .ok (rules, n)) :
    VisitsEnd rules := by
  have hn := compileRules_numbered h
  constructor
  case numbered =>
    refine ⟨hn, ?_⟩
    intro r hr hzero
    have hid : r.id ∈ List.range' 1 (n - 1) := by
      rw [← (compileRules_ids rs h).1]
      exact List.mem_map_of_mem hr
    have hpos := (List.mem_range'_1.mp hid).1
    omega
  case wellFounded => exact ModeVisit.wellFounded_makes hn
  case adds =>
    intro v w hv hmakes
    exact hmakes.adds hn hv
  case keys =>
    intro v w hv hw
    exact modeKey_eq_iff hn hv.within hw.within
  case finite => exact ⟨forestKeys rules, fun v hv ↦ mem_forestKeys hn hv, card_forestKeys_le rules⟩
  case ends =>
    intro v hv
    have hends : Ends v.seen v.result := visitMode_ends hn hv
    obtain ⟨outcome, hrun, -⟩ := hends
    exact ⟨outcome, hrun⟩
  case answer => exact visitMode_top hn

/-- Blocks that enter and inherit each other are visited in one another, and the visits come to an
end. -/
theorem contradiction_check_terminates_nestedBlocks :
    ∃ rules n, compileRules "blocks" true "rules" 0 1 nestedBlocks.rules = .ok (rules, n) ∧
      (∃ v w, ModeVisit.Makes ⟨0, rules, []⟩ v ∧ v.Makes w) ∧ VisitsEnd rules := by
  obtain ⟨g, hg, hinner⟩ := exists_compiled nestedBlocks
    (fun g ↦ ((ModeVisit.first? ⟨0, g.rules, []⟩).bind ModeVisit.first?).isSome) (by decide +kernel)
  obtain ⟨⟨n, hrules⟩, -⟩ := compile_ok hg
  obtain ⟨w, hw⟩ := Option.isSome_iff_exists.mp hinner
  obtain ⟨v, hv, hw⟩ := Option.bind_eq_some_iff.mp hw
  exact ⟨g.rules, n, hrules, ⟨v, w, .of_first? hv, .of_first? hw⟩,
    contradiction_check_terminates hrules⟩

end CodeViewer
