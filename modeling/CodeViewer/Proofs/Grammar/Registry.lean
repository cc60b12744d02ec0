import CodeViewer.Grammar.Registry
import Mathlib.Data.String.Basic
import Mathlib.Data.List.Sort

/-!
# The registry as a list of grammars

The registry keeps what compiling a grammar has come to. This does not show: each sequence of
calls is answered as by a plain list of grammars, of which no two go by the same name, that
compiles the grammar it finds at each lookup. In particular what a grammar was compiled to is
forgotten once another one takes its name.
-/

namespace CodeViewer

/-! ### Calls -/

/-- What a registry is asked to do. -/
inductive RegistryCall where
  | register (g : Grammar)
  | get (name : String)
  | forFile (path : String)
  | names

/-- What a registry answers. -/
inductive RegistryAnswer where
  | registered (g : Grammar)
  | lookedUp (result : Except LookupError CompiledGrammar)
  | names (names : List String)

/-- The answers to calls that are made one after the other, and the state behind them. -/
def runCalls {σ : Type} (answer : RegistryCall → σ → RegistryAnswer × σ) :
    List RegistryCall → σ → List RegistryAnswer × σ
  | [], s => ([], s)
  | call :: calls, s =>
    let (a, s) := answer call s
    let (as, s) := runCalls answer calls s
    (a :: as, s)

/-- The grammars that calls register, in their order. -/
def registrations (calls : List RegistryCall) : List Grammar :=
  calls.filterMap fun
    | .register g => some g
    | _ => none

/-- Two grammars go by the same name. -/
def Grammar.SameName (g h : Grammar) : Prop := Unicode.equalFold g.name h.name = true

instance (g h : Grammar) : Decidable (g.SameName h) :=
  inferInstanceAs (Decidable (_ = true))

/-- Of the grammars that were registered, `g` was the last one of its name. -/
def IsCurrent (registered : List Grammar) (g : Grammar) : Prop :=
  ∃ earlier later, registered = earlier ++ g :: later ∧ ∀ h ∈ later, ¬ h.SameName g

/-- A registry answers a call. -/
def Registry.answer : RegistryCall → Registry → RegistryAnswer × Registry
  | .register g, r => (.registered g, r.register g)
  | .get name, r => ((r.get name).map .lookedUp id)
  | .forFile path, r => ((r.forFile path).map .lookedUp id)
  | .names, r => (.names r.names, r)

/-! ### The reference -/

/-- A list of grammars in the order of their priority. -/
structure Catalogue where
  grammars : List Grammar

namespace Catalogue

/-- The grammars that come with the program. -/
def bundled : Catalogue := ⟨[zig]⟩

/-- Put a grammar in the place of the one that goes by its name, or else behind all others. -/
def register (c : Catalogue) (g : Grammar) : Catalogue :=
  if ∃ h ∈ c.grammars, h.SameName g then
    ⟨c.grammars.map fun h ↦ if h.SameName g then g else h⟩
  else ⟨c.grammars ++ [g]⟩

/-- Compile the first grammar that satisfies `p`, or report that it is `missing`. -/
def find (c : Catalogue) (p : Grammar → Bool) (missing : LookupError) :
    Except LookupError CompiledGrammar :=
  match c.grammars.find? p with
  | none => .error missing
  | some g => (compile g).mapError .invalid

/-- The names of all grammars, in ascending order. -/
def names (c : Catalogue) : List String := (c.grammars.map (·.name)).mergeSort

/-- A list of grammars answers a call. -/
def answer : RegistryCall → Catalogue → RegistryAnswer × Catalogue
  | .register g, c => (.registered g, c.register g)
  | .get name, c => (.lookedUp (c.find (Registry.answersTo name) (.unknownName name)), c)
  | .forFile path, c =>
    let base := Glob.baseName path
    (.lookedUp (c.find (Registry.covers base) (.unknownFile base)), c)
  | .names, c => (.names c.names, c)

end Catalogue

/-! ### Names -/

namespace Grammar

variable {g h k : Grammar}

private theorem sameName_iff :
    g.SameName h ↔ g.name.toList.map Unicode.fold = h.name.toList.map Unicode.fold := by
  simp [SameName, Unicode.equalFold]

/-- A grammar goes by its own name. -/
theorem SameName.refl (g : Grammar) : g.SameName g := sameName_iff.mpr rfl

private theorem SameName.symm (hgh : g.SameName h) : h.SameName g :=
  sameName_iff.mpr (sameName_iff.mp hgh).symm

private theorem SameName.trans (hgh : g.SameName h) (hhk : h.SameName k) : g.SameName k :=
  sameName_iff.mpr ((sameName_iff.mp hgh).trans (sameName_iff.mp hhk))

end Grammar

/-! ### Names in order -/

private theorem insertSorted_perm (s : String) (l : List String) :
    (insertSorted s l).Perm (s :: l) := by
  induction l with
  | nil => exact .refl _
  | cons t ts ih =>
    simp only [insertSorted]
    split
    · exact .refl _
    · exact (ih.cons t).trans (.swap s t ts)

private theorem insertSorted_pairwise (s : String) {l : List String} (h : l.Pairwise (· ≤ ·)) :
    (insertSorted s l).Pairwise (· ≤ ·) := by
  induction l with
  | nil => exact List.pairwise_singleton _ s
  | cons t ts ih =>
    obtain ⟨hhead, htail⟩ := List.pairwise_cons.mp h
    simp only [insertSorted]
    split
    · next hlt =>
      apply List.Pairwise.cons _ h
      rw [List.forall_mem_cons]
      constructor
      · exact le_of_lt hlt
      · intro u hu
        exact (le_of_lt hlt).trans (hhead u hu)
    · next hge =>
      apply List.Pairwise.cons _ (ih htail)
      intro u hu
      rw [(insertSorted_perm s ts).mem_iff, List.mem_cons] at hu
      rcases hu with rfl | hu
      · exact le_of_not_gt hge
      · exact hhead u hu

/-- Put names into a list, one by one. -/
def insertEach (names sorted : List String) : List String :=
  names.foldl (fun sorted name ↦ insertSorted name sorted) sorted

/-- Names that are put into a list one by one join its elements. -/
theorem insertEach_perm (names sorted : List String) :
    (insertEach names sorted).Perm (names ++ sorted) := by
  induction names generalizing sorted with
  | nil => exact .refl _
  | cons s names ih =>
    refine (ih (insertSorted s sorted)).trans ?_
    exact ((insertSorted_perm s sorted).append_left names).trans List.perm_middle

private theorem insertEach_pairwise (names : List String) {sorted : List String}
    (h : sorted.Pairwise (· ≤ ·)) : (insertEach names sorted).Pairwise (· ≤ ·) := by
  induction names generalizing sorted with
  | nil => exact h
  | cons s names ih => exact ih (insertSorted_pairwise s h)

private theorem insertEach_nil (names : List String) : insertEach names [] = names.mergeSort := by
  have hperm := insertEach_perm names []
  rw [List.append_nil] at hperm
  apply (hperm.trans (List.mergeSort_perm names _).symm).eq_of_pairwise
  · intro a b _ _ hab hba
    exact le_antisymm hab hba
  · exact insertEach_pairwise names List.Pairwise.nil
  · have htrans : ∀ a b c : String, decide (a ≤ b) = true → decide (b ≤ c) = true →
        decide (a ≤ c) = true := by
      simpa using fun a b c ↦ le_trans
    have htotal : ∀ a b : String, (decide (a ≤ b) || decide (b ≤ a)) = true := by
      simpa using fun a b ↦ le_total a b
    simpa using List.pairwise_mergeSort htrans htotal names

/-! ### Distinct names -/

/-- No two grammars go by the same name. -/
def DistinctNames (gs : List Grammar) : Prop := gs.Pairwise fun g h ↦ ¬ g.SameName h

variable {before after gs registered : List Grammar} {g h : Grammar}

/-- With one grammar more the names stay distinct if its name is new. -/
theorem distinctNames_insert :
    DistinctNames (before ++ g :: after) ↔
      DistinctNames (before ++ after) ∧ ∀ h ∈ before ++ after, ¬ h.SameName g := by
  have hperm : (before ++ g :: after).Perm (g :: (before ++ after)) := List.perm_middle
  have hsymm : ∀ {h k : Grammar}, ¬ h.SameName k → ¬ k.SameName h := fun hn hs ↦ hn hs.symm
  rw [DistinctNames, hperm.pairwise_iff hsymm, List.pairwise_cons, and_comm]
  exact and_congr_right fun _ ↦ forall₂_congr fun h _ ↦ ⟨hsymm, hsymm⟩

private theorem DistinctNames.others (hd : DistinctNames (before ++ h :: after))
    (hs : h.SameName g) :
    ∀ k ∈ before ++ after, ¬ k.SameName g :=
  fun k hk hkg ↦ (distinctNames_insert.mp hd).2 k hk (hkg.trans hs.symm)

namespace Catalogue

private theorem register_of_sameName (hd : DistinctNames (before ++ h :: after))
    (hs : h.SameName g) :
    register ⟨before ++ h :: after⟩ g = ⟨before ++ g :: after⟩ := by
  have hkeep : ∀ k ∈ before ++ after, (if k.SameName g then g else k) = id k :=
    fun k hk ↦ if_neg (hd.others hs k hk)
  rw [register, if_pos ⟨h, List.mem_append_right before List.mem_cons_self, hs⟩, List.map_append,
    List.map_cons, if_pos hs, List.map_congr_left fun k hk ↦ hkeep k (List.mem_append_left _ hk),
    List.map_congr_left fun k hk ↦ hkeep k (List.mem_append_right _ hk), List.map_id, List.map_id]

private theorem register_of_new (hn : ∀ k ∈ gs, ¬ k.SameName g) : register ⟨gs⟩ g = ⟨gs ++ [g]⟩ :=
  if_neg fun ⟨k, hk, hkg⟩ ↦ hn k hk hkg

private theorem register_cases (hd : DistinctNames gs) (g : Grammar) :
    (∃ before h after, gs = before ++ h :: after ∧ (∀ k ∈ before ++ after, ¬ k.SameName g) ∧
      register ⟨gs⟩ g = ⟨before ++ g :: after⟩) ∨
    ((∀ k ∈ gs, ¬ k.SameName g) ∧ register ⟨gs⟩ g = ⟨gs ++ [g]⟩) := by
  by_cases hex : ∃ h ∈ gs, h.SameName g
  · obtain ⟨h, hmem, hsame⟩ := hex
    obtain ⟨before, after, rfl⟩ := List.append_of_mem hmem
    exact .inl ⟨before, h, after, rfl, hd.others hsame, register_of_sameName hd hsame⟩
  · have hnew : ∀ k ∈ gs, ¬ k.SameName g := fun k hk hkg ↦ hex ⟨k, hk, hkg⟩
    exact .inr ⟨hnew, register_of_new hnew⟩

end Catalogue

/-- Registering a grammar keeps the names distinct. -/
theorem DistinctNames.register (hd : DistinctNames gs) (g : Grammar) :
    DistinctNames (Catalogue.register ⟨gs⟩ g).grammars := by
  rcases Catalogue.register_cases hd g with ⟨before, h, after, rfl, hothers, heq⟩ | ⟨hnew, heq⟩
  · rw [heq]
    exact distinctNames_insert.mpr ⟨(distinctNames_insert.mp hd).1, hothers⟩
  · rw [heq]
    exact distinctNames_insert.mpr ⟨by rwa [List.append_nil], by rwa [List.append_nil]⟩

/-- The grammars of a list behind registering one. -/
theorem Catalogue.mem_register {c : Catalogue} :
    h ∈ (c.register g).grammars ↔ h = g ∨ h ∈ c.grammars ∧ ¬ h.SameName g := by
  rw [register]
  split
  · next hex =>
    constructor
    · intro hmem
      obtain ⟨k, hk, rfl⟩ := List.mem_map.mp hmem
      by_cases hkg : k.SameName g
      · exact .inl (if_pos hkg)
      · rw [if_neg hkg]
        exact .inr ⟨hk, hkg⟩
    · rintro (rfl | ⟨hmem, hn⟩)
      · obtain ⟨k, hk, hkg⟩ := hex
        exact List.mem_map.mpr ⟨k, hk, if_pos hkg⟩
      · exact List.mem_map.mpr ⟨h, hmem, if_neg hn⟩
  · next hnew =>
    rw [List.mem_append, List.mem_singleton, or_comm]
    apply or_congr_right
    constructor
    · intro hmem
      exact ⟨hmem, fun hhg ↦ hnew ⟨h, hmem, hhg⟩⟩
    · exact And.left

private theorem isCurrent_append :
    IsCurrent (registered ++ [g]) h ↔ h = g ∨ IsCurrent registered h ∧ ¬ h.SameName g := by
  constructor
  · rintro ⟨earlier, later, heq, hlater⟩
    rcases List.eq_nil_or_concat later with rfl | ⟨later, k, rfl⟩
    · exact .inl (List.singleton_inj.mp (List.append_inj' heq rfl).2).symm
    · rw [List.concat_eq_append, ← List.cons_append, ← List.append_assoc] at heq
      obtain ⟨rfl, hgk⟩ := List.append_inj' heq rfl
      obtain rfl := List.singleton_inj.mp hgk
      rw [List.concat_eq_append, List.forall_mem_append, List.forall_mem_singleton] at hlater
      right
      constructor
      · exact ⟨earlier, later, rfl, hlater.1⟩
      · intro hhg
        exact hlater.2 hhg.symm
  · rintro (rfl | ⟨⟨earlier, later, rfl, hlater⟩, hn⟩)
    · exact ⟨registered, [], rfl, by simp⟩
    · refine ⟨earlier, later ++ [g], by simp, ?_⟩
      rw [List.forall_mem_append, List.forall_mem_singleton]
      exact ⟨hlater, fun hgh ↦ hn hgh.symm⟩

/-! ### What the registry keeps -/

/-- What is kept with a grammar, if anything, is what compiling it comes to. -/
def RegistryEntry.IsHonest (e : RegistryEntry) : Prop :=
  ∀ result ∈ e.compiled, result = compile e.grammar

namespace RegistryEntry

private theorem isHonest_ofGrammar (g : Grammar) : (ofGrammar g).IsHonest := by
  intro result h
  cases h

/-- An honest entry answers as compiling its grammar does. -/
theorem IsHonest.result_eq {e : RegistryEntry} (h : e.IsHonest) : e.result = compile e.grammar := by
  rw [result]
  cases hc : e.compiled with
  | none => rfl
  | some result => exact h result hc

/-- An entry stays honest when it is looked up. -/
theorem IsHonest.lookedUp {e : RegistryEntry} (h : e.IsHonest) : e.lookedUp.IsHonest := by
  intro result hresult
  rw [← Option.some.inj hresult]
  exact h.result_eq

end RegistryEntry

namespace Registry

/-- The grammars of a registry. -/
def grammars (r : Registry) : List Grammar := r.entries.map (·.grammar)

variable {es es' : List RegistryEntry} {g : Grammar} {p : Grammar → Bool}

private theorem replace_eq_none (h : replace g es = none) : ∀ e ∈ es, ¬ e.grammar.SameName g := by
  induction es with
  | nil => simp
  | cons e es ih =>
    simp only [replace] at h
    split at h
    · cases h
    · next hname =>
      rw [List.forall_mem_cons]
      exact ⟨hname, ih (Option.map_eq_none_iff.mp h)⟩

private theorem replace_eq_some (h : replace g es = some es') :
    ∃ before e after, es = before ++ e :: after ∧ e.grammar.SameName g ∧
      es' = before ++ .ofGrammar g :: after := by
  induction es generalizing es' with
  | nil => cases h
  | cons e es ih =>
    simp only [replace] at h
    split at h
    · next hname => exact ⟨[], e, es, rfl, hname, (Option.some.inj h).symm⟩
    · obtain ⟨tail, htail, rfl⟩ := Option.map_eq_some_iff.mp h
      obtain ⟨before, e', after, rfl, hsame, rfl⟩ := ih htail
      exact ⟨e :: before, e', after, rfl, hsame, rfl⟩

private theorem lookup_eq_none (h : lookup p es = none) : (es.map (·.grammar)).find? p = none := by
  induction es with
  | nil => rfl
  | cons e es ih =>
    simp only [lookup] at h
    split at h
    · cases h
    · next hp =>
      rw [List.map_cons, List.find?_cons_of_neg hp]
      exact ih (Option.map_eq_none_iff.mp h)

private theorem lookup_eq_some {result : Except InvalidGrammar CompiledGrammar}
    (h : lookup p es = some (result, es')) :
    ∃ before e after, es = before ++ e :: after ∧ (es.map (·.grammar)).find? p = some e.grammar ∧
      result = e.result ∧ es' = before ++ e.lookedUp :: after := by
  induction es generalizing es' with
  | nil => cases h
  | cons e es ih =>
    simp only [lookup] at h
    split at h
    · next hp =>
      cases h
      exact ⟨[], e, es, rfl, List.find?_cons_of_pos hp, rfl, rfl⟩
    · next hp =>
      obtain ⟨⟨result, tail⟩, htail, heq⟩ := Option.map_eq_some_iff.mp h
      cases heq
      obtain ⟨before, e', after, rfl, hfind, rfl, rfl⟩ := ih htail
      refine ⟨e :: before, e', after, rfl, ?_, rfl, rfl⟩
      rw [List.map_cons, List.find?_cons_of_neg hp]
      exact hfind

/-- What registering a grammar does to the entries. -/
theorem register_cases (r : Registry) (g : Grammar) :
    (∃ before e after, r.entries = before ++ e :: after ∧ e.grammar.SameName g ∧
      r.register g = ⟨before ++ .ofGrammar g :: after⟩) ∨
    ((∀ e ∈ r.entries, ¬ e.grammar.SameName g) ∧ r.register g = ⟨r.entries ++ [.ofGrammar g]⟩) := by
  cases h : replace g r.entries with
  | none => exact .inr ⟨replace_eq_none h, by rw [register, h, Option.getD_none]⟩
  | some es =>
    obtain ⟨before, e, after, hes, hsame, rfl⟩ := replace_eq_some h
    exact .inl ⟨before, e, after, hes, hsame, by rw [register, h, Option.getD_some]⟩

/-- Where names are distinct, a grammar is registered as in a list of grammars. -/
theorem grammars_register {r : Registry} (hd : DistinctNames r.grammars) (g : Grammar) :
    (r.register g).grammars = (Catalogue.register ⟨r.grammars⟩ g).grammars := by
  rcases register_cases r g with ⟨before, e, after, hes, hsame, hreg⟩ | ⟨hnew, hreg⟩
  · have hsplit : r.grammars =
        before.map (·.grammar) ++ e.grammar :: after.map (·.grammar) := by
      rw [grammars, hes, List.map_append, List.map_cons]
    rw [hsplit] at hd ⊢
    rw [Catalogue.register_of_sameName hd hsame, grammars, hreg, List.map_append, List.map_cons]
    rfl
  · have hnew : ∀ k ∈ r.grammars, ¬ k.SameName g := List.forall_mem_map.mpr hnew
    rw [Catalogue.register_of_new hnew, hreg, grammars, List.map_append]
    rfl

/-- Entries stay honest when a grammar is registered. -/
theorem isHonest_register {r : Registry} (hh : ∀ e ∈ r.entries, e.IsHonest) (g : Grammar) :
    ∀ e ∈ (r.register g).entries, e.IsHonest := by
  have hnew := RegistryEntry.isHonest_ofGrammar g
  rcases register_cases r g with ⟨before, e, after, hes, -, hreg⟩ | ⟨-, hreg⟩
  · rw [hes, List.forall_mem_append, List.forall_mem_cons] at hh
    rw [hreg, List.forall_mem_append, List.forall_mem_cons]
    exact ⟨hh.1, hnew, hh.2.2⟩
  · rw [hreg, List.forall_mem_append, List.forall_mem_singleton]
    exact ⟨hh, hnew⟩

/-- Finding a grammar in honest entries compiles it; no more than what is kept with it changes. -/
theorem find_eq {r : Registry} (hh : ∀ e ∈ r.entries, e.IsHonest) (p : Grammar → Bool)
    (missing : LookupError) :
    (r.find p missing).1 = Catalogue.find ⟨r.grammars⟩ p missing ∧
      (r.find p missing).2.grammars = r.grammars ∧
      ∀ e ∈ (r.find p missing).2.entries, e.IsHonest := by
  cases hlook : lookup p r.entries with
  | none =>
    have hnone : r.grammars.find? p = none := lookup_eq_none hlook
    simp only [find, hlook, Catalogue.find, hnone]
    exact ⟨trivial, trivial, hh⟩
  | some found =>
    obtain ⟨result, es⟩ := found
    obtain ⟨before, e, after, hes, hsome, rfl, rfl⟩ := lookup_eq_some hlook
    have hsome : r.grammars.find? p = some e.grammar := hsome
    rw [hes, List.forall_mem_append, List.forall_mem_cons] at hh
    simp only [find, hlook, Catalogue.find, hsome, hh.2.1.result_eq]
    refine ⟨trivial, ?_, ?_⟩
    · rw [grammars, grammars, hes, List.map_append, List.map_append, List.map_cons, List.map_cons]
      rfl
    · rw [List.forall_mem_append, List.forall_mem_cons]
      exact ⟨hh.1, hh.2.1.lookedUp, hh.2.2⟩

/-- A registry and a list of grammars stand for the same. -/
structure Mirrors (r : Registry) (c : Catalogue) : Prop where
  grammars : r.grammars = c.grammars
  honest : ∀ e ∈ r.entries, e.IsHonest
  distinct : DistinctNames c.grammars

namespace Mirrors

variable {r : Registry} {c : Catalogue}

/-- The registry and the list the program starts with stand for the same. -/
theorem bundled : Mirrors .bundled .bundled where
  grammars := rfl
  honest := by
    intro e he
    rw [List.mem_singleton.mp he]
    exact RegistryEntry.isHonest_ofGrammar zig
  distinct := List.pairwise_singleton _ zig

/-- They still do when a grammar is registered in both. -/
theorem register (h : Mirrors r c) (g : Grammar) : Mirrors (r.register g) (c.register g) where
  grammars := by
    rw [grammars_register (h.grammars ▸ h.distinct), h.grammars]
  honest := isHonest_register h.honest g
  distinct := h.distinct.register g

/-- Both find the same, and still stand for the same behind it. -/
theorem find (h : Mirrors r c) (p : Grammar → Bool) (missing : LookupError) :
    (r.find p missing).1 = c.find p missing ∧ Mirrors (r.find p missing).2 c := by
  obtain ⟨hfound, hgrammars, hhonest⟩ := find_eq h.honest p missing
  exact ⟨by rw [hfound, h.grammars], hgrammars.trans h.grammars, hhonest, h.distinct⟩

/-- Both list the same names. -/
theorem names_eq (h : Mirrors r c) : r.names = c.names := by
  change insertEach (r.entries.map (·.grammar.name)) [] = c.names
  rw [insertEach_nil, Catalogue.names, ← h.grammars, Registry.grammars, List.map_map]
  rfl

/-- A call is answered in the same way by both, and they stand for the same behind it. -/
theorem answer (h : Mirrors r c) (call : RegistryCall) :
    (r.answer call).1 = (c.answer call).1 ∧ Mirrors (r.answer call).2 (c.answer call).2 := by
  cases call with
  | register g => exact ⟨rfl, h.register g⟩
  | get name =>
    obtain ⟨hfound, hkept⟩ := h.find (answersTo name) (.unknownName name)
    exact ⟨congrArg RegistryAnswer.lookedUp hfound, hkept⟩
  | forFile path =>
    obtain ⟨hfound, hkept⟩ :=
      h.find (covers (Glob.baseName path)) (.unknownFile (Glob.baseName path))
    exact ⟨congrArg RegistryAnswer.lookedUp hfound, hkept⟩
  | names => exact ⟨congrArg RegistryAnswer.names h.names_eq, h⟩

/-- So are any number of calls. -/
theorem run (h : Mirrors r c) (calls : List RegistryCall) :
    (runCalls Registry.answer calls r).1 = (runCalls Catalogue.answer calls c).1 ∧
      Mirrors (runCalls Registry.answer calls r).2 (runCalls Catalogue.answer calls c).2 := by
  induction calls generalizing r c with
  | nil => exact ⟨rfl, h⟩
  | cons call calls ih =>
    obtain ⟨hanswer, hstate⟩ := h.answer call
    obtain ⟨hrest, hlast⟩ := ih hstate
    exact ⟨congrArg₂ List.cons hanswer hrest, hlast⟩

end Mirrors

end Registry

/-! ### Runs -/

/-- Behind any number of calls, a list holds the grammars that are current. -/
theorem Catalogue.mem_run {c : Catalogue} {registered : List Grammar}
    (hc : ∀ g, g ∈ c.grammars ↔ IsCurrent registered g) (calls : List RegistryCall) (g : Grammar) :
    g ∈ (runCalls answer calls c).2.grammars ↔ IsCurrent (registered ++ registrations calls) g := by
  induction calls generalizing c registered with
  | nil => simpa [runCalls, registrations] using hc g
  | cons call calls ih =>
    cases call with
    | register h =>
      have hstep : ∀ g, g ∈ (c.register h).grammars ↔ IsCurrent (registered ++ [h]) g := by
        intro g
        rw [mem_register, isCurrent_append, hc g]
      have hrest := ih hstep
      rw [List.append_assoc] at hrest
      exact hrest
    | get name => exact ih hc
    | forFile path => exact ih hc
    | names => exact ih hc

private theorem Catalogue.mem_bundled (g : Grammar) : g ∈ bundled.grammars ↔ IsCurrent [zig] g := by
  have hnone : ¬ IsCurrent [] g := by
    rintro ⟨earlier, later, heq, -⟩
    simp at heq
  have hone : IsCurrent ([] ++ [zig]) g ↔ g = zig := by
    rw [isCurrent_append]
    simp [hnone]
  rw [List.nil_append] at hone
  rw [hone, bundled, List.mem_singleton]

namespace Registry

/-- The registry behind calls. -/
def afterCalls (calls : List RegistryCall) : Registry := (runCalls answer calls .bundled).2

/-- Behind any number of calls, the registry holds the grammars that are current. -/
theorem mem_grammars_afterCalls (calls : List RegistryCall) (g : Grammar) :
    g ∈ (afterCalls calls).grammars ↔ IsCurrent (zig :: registrations calls) g := by
  rw [afterCalls, (Mirrors.bundled.run calls).2.grammars]
  exact Catalogue.mem_run Catalogue.mem_bundled calls g

/-- The names in the registry are distinct at all times. -/
theorem distinctNames_afterCalls (calls : List RegistryCall) :
    DistinctNames (afterCalls calls).grammars := by
  have h := (Mirrors.bundled.run calls).2
  exact h.grammars ▸ h.distinct

/-- At all times a lookup compiles the first grammar that is as asked for. -/
theorem find_afterCalls (calls : List RegistryCall) (p : Grammar → Bool) (missing : LookupError) :
    ((afterCalls calls).find p missing).1 =
      Catalogue.find ⟨(afterCalls calls).grammars⟩ p missing :=
  (find_eq (Mirrors.bundled.run calls).2.honest p missing).1

/-- The registry answers any calls as a list of grammars that compiles the first match at each
lookup. The names it holds are distinct at all times, and a lookup comes to what a grammar is
compiled to that is as asked for and that no later one has replaced, if there is any such. -/
theorem answers_as_uncached_list (calls : List RegistryCall) :
    (runCalls answer calls .bundled).1 = (runCalls Catalogue.answer calls .bundled).1 ∧
      DistinctNames (afterCalls calls).grammars ∧
      ∀ p missing,
        (((afterCalls calls).find p missing).1 = .error missing ∧
          ∀ g, IsCurrent (zig :: registrations calls) g → p g = false) ∨
        ∃ g, IsCurrent (zig :: registrations calls) g ∧ p g = true ∧
          ((afterCalls calls).find p missing).1 = (compile g).mapError .invalid := by
  refine ⟨(Mirrors.bundled.run calls).1, distinctNames_afterCalls calls, fun p missing ↦ ?_⟩
  rw [find_afterCalls, Catalogue.find]
  cases hfind : (afterCalls calls).grammars.find? p with
  | none =>
    left
    refine ⟨rfl, fun g hg ↦ ?_⟩
    have hmem := (mem_grammars_afterCalls calls g).mpr hg
    simpa using List.find?_eq_none.mp hfind g hmem
  | some g =>
    right
    have hmem := List.mem_of_find?_eq_some hfind
    exact ⟨g, (mem_grammars_afterCalls calls g).mp hmem, List.find?_some hfind, rfl⟩

end Registry

end CodeViewer
