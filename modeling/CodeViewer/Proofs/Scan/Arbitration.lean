import CodeViewer.Proofs.Grammar.Categories
import CodeViewer.Proofs.Scan.Progress

/-!
# Which match is taken

Where a step looks for a candidate, several rules, word categories and the pattern of identifiers
may match. Which of them contend, and which contender prevails over which, is said here for each by
itself, whatever order they are tried in. The one candidate that a step takes is the contender that
prevails over all others.
-/

namespace CodeViewer

open Text (Source)

/-! ### Contenders -/

/-- The rank of a rule among contenders of equal length: a literal ranks with the category of its
class or, if there is none, behind all categories; a pattern ranks behind all literals. -/
inductive CompiledGrammar.Ranks (g : CompiledGrammar) (r : CompiledRule) : Nat → Prop where
  | withCategory {i : Nat} {c : CompiledCategory} : r.head.literal = true →
      g.categories[i]? = some c → c.cls = r.head.cls → g.Ranks r i
  | behindCategories : r.head.literal = true → (∀ c ∈ g.categories, c.cls ≠ r.head.cls) →
      g.Ranks r g.categories.length
  | behindLiterals : r.head.literal = false → g.Ranks r (g.categories.length + 1)

namespace Scan

/-- A search for a pattern that starts at a place finds a match of `n` characters, not none. -/
def MatchesAt (src : Source) (p : Pattern) (pos n : Nat) : Prop :=
  p.matchLength? src.chars pos = .ok (some n) ∧ 0 < n

/-- One of the rules begins with a pattern that matches. -/
def PatternMatches (src : Source) (pos : Nat) (rules : List CompiledRule) : Prop :=
  ∃ r ∈ rules, r.head.literal = false ∧ ∃ n, MatchesAt src r.head.start pos n

/-- The rules and categories that contend, each with its place: rules come first, and of those
that begin with a pattern only the first that matches contends. -/
inductive Competes (g : CompiledGrammar) (src : Source) (pos : Nat) (rules : List CompiledRule)
    (categories : List CompiledCategory) : (place : Nat) → Candidate → Prop where
  | rule {i n rank : Nat} {r : CompiledRule} : rules[i]? = some r →
      MatchesAt src r.head.start pos n →
      (r.head.literal = false → ¬ PatternMatches src pos (rules.take i)) → g.Ranks r rank →
      Competes g src pos rules categories i ⟨some r, r.head.cls, n, rank⟩
  | category {i n : Nat} {c : CompiledCategory} : categories[i]? = some c →
      MatchesAt src c.pattern pos n →
      Competes g src pos rules categories (rules.length + i) ⟨none, c.cls, n, i⟩

/-- The categories that apply in a mode: all of them or none. -/
def visibleCategories (g : CompiledGrammar) (m : Mode) : List CompiledCategory :=
  if m.categories then g.categories else []

/-- What contends in a mode. An identifier does so only if it is longer than all else. -/
inductive Contends (g : CompiledGrammar) (src : Source) (m : Mode) (pos : Nat) :
    (place : Nat) → Candidate → Prop where
  | competitor {i : Nat} {c : Candidate} :
      Competes g src pos m.visible (visibleCategories g m) i c → Contends g src m pos i c
  | name {n : Nat} : m.categories = true → MatchesAt src g.namePattern pos n →
      (∀ i c, Competes g src pos m.visible g.categories i c → c.length < n) →
      Contends g src m pos (m.visible.length + g.categories.length)
        ⟨none, Class.identifier, n, 0⟩

/-- A contender prevails over one that is shorter, or as long but of a higher rank, or equal in
both but not in front of it. -/
def Prevails (i : Nat) (c : Candidate) (j : Nat) (d : Candidate) : Prop :=
  d.length < c.length ∨
    d.length = c.length ∧ (c.rank < d.rank ∨ c.rank = d.rank ∧ i ≤ j)

/-- The candidate a contender becomes when it is taken. One that comes from no rule is a word,
which is classified anew. -/
inductive Settles (g : CompiledGrammar) (src : Source) (pos : Nat) :
    Candidate → Candidate → Prop where
  | rule {w : Candidate} {r : CompiledRule} : w.rule = some r → Settles g src pos w w
  | word {w : Candidate} {lexeme : String} {cls : Class} : w.rule = none →
      excerpt src pos (pos + w.length) = .ok lexeme → g.classify lexeme w.cls = .ok cls →
      Settles g src pos w { w with cls := cls }

variable {g : CompiledGrammar} {src : Source} {m : Mode} {pos : Nat} {rules : List CompiledRule}
  {categories : List CompiledCategory} {best c? : Option Candidate}

private theorem MatchesAt.unique {p : Pattern} {n k : Nat} (h : MatchesAt src p pos n)
    (h' : MatchesAt src p pos k) : n = k := by
  have heq := h.1.symm.trans h'.1
  simpa using heq

private theorem not_matchesAt {p : Pattern} {n? : Option Nat}
    (h : p.matchLength? src.chars pos = .ok n?) (hn : n? = none ∨ n? = some 0) (k : Nat) :
    ¬ MatchesAt src p pos k := by
  rintro ⟨hk, hpositive⟩
  rw [h] at hk
  rcases hn with rfl | rfl <;> cases hk
  exact Nat.lt_irrefl 0 hpositive

/-! ### Ranks -/

/-- The rank that a search reckons with. -/
def rankOf (g : CompiledGrammar) (r : CompiledRule) : Nat :=
  if r.head.literal then g.rank r.head.cls else g.categories.length + 1

private theorem ranks_iff (hdistinct : (g.categories.map (·.cls)).Nodup) {r : CompiledRule}
    {rank : Nat} :
    g.Ranks r rank ↔ rank = rankOf g r := by
  unfold rankOf
  cases hliteral : r.head.literal with
  | false =>
    constructor
    · intro h
      cases h with
      | withCategory h => simp [hliteral] at h
      | behindCategories h => simp [hliteral] at h
      | behindLiterals _ => rfl
    · rintro rfl
      exact .behindLiterals hliteral
  | true =>
    simp only [ite_true, CompiledGrammar.rank]
    cases hfound : g.categories.findIdx? (·.cls == r.head.cls) with
    | none =>
      have hnone : ∀ c ∈ g.categories, c.cls ≠ r.head.cls := by
        simpa using List.findIdx?_eq_none_iff.mp hfound
      constructor
      · intro h
        cases h with
        | withCategory _ hi hcls => exact absurd hcls (hnone _ (List.mem_of_getElem? hi))
        | behindCategories _ _ => rfl
        | behindLiterals h => simp [hliteral] at h
      · rintro rfl
        exact .behindCategories hliteral hnone
    | some k =>
      obtain ⟨hk, hcls, -⟩ := List.findIdx?_eq_some_iff_getElem.mp hfound
      have hcls : g.categories[k].cls = r.head.cls := by simpa using hcls
      constructor
      · intro h
        cases h with
        | withCategory _ hi hclass =>
          obtain ⟨hlt, rfl⟩ := List.getElem?_eq_some_iff.mp hi
          have hsame : (g.categories.map (·.cls))[rank]? = (g.categories.map (·.cls))[k]? := by
            rw [List.getElem?_map, List.getElem?_map, List.getElem?_eq_getElem hlt,
              List.getElem?_eq_getElem hk, Option.map_some, Option.map_some, hclass, hcls]
          exact (List.getElem?_inj (by simpa using hlt) hdistinct).mp hsame
        | behindCategories _ hnone => exact absurd hcls (hnone _ (List.getElem_mem hk))
        | behindLiterals h => simp [hliteral] at h
      · rintro rfl
        exact .withCategory hliteral (List.getElem?_eq_getElem hk) hcls

/-! ### The best so far -/

/-- The best of some contenders is the one that prevails over all of them, if there are any. -/
def Leads (C : Nat → Candidate → Prop) : Option Candidate → Prop
  | none => ∀ i c, ¬ C i c
  | some b => ∃ i, C i b ∧ ∀ j d, C j d → Prevails i b j d

variable {C C' : Nat → Candidate → Prop}

private theorem Leads.congr (h : Leads C best) (hC : ∀ j d, C' j d ↔ C j d) : Leads C' best := by
  have heq : C' = C := by
    funext j d
    exact propext (hC j d)
  rwa [heq]

private theorem Leads.better {k : Nat} {c : Candidate} (h : Leads C best)
    (hC : ∀ j d, C' j d ↔ C j d ∨ j = k ∧ d = c) (hlast : ∀ j d, C j d → j ≤ k) :
    Leads C' (better best c) := by
  cases best with
  | none =>
    refine ⟨k, (hC k c).mpr (.inr ⟨rfl, rfl⟩), ?_⟩
    intro j d hd
    rcases (hC j d).mp hd with hd | ⟨rfl, rfl⟩
    · exact absurd hd (h j d)
    · exact .inr ⟨rfl, .inr ⟨rfl, Nat.le_refl _⟩⟩
  | some b =>
    obtain ⟨i, hb, hleads⟩ := h
    simp only [Scan.better, Bool.or_eq_true, Bool.and_eq_true, decide_eq_true_eq, beq_iff_eq]
    split
    · next hbetter =>
      refine ⟨k, (hC k c).mpr (.inr ⟨rfl, rfl⟩), ?_⟩
      intro j d hd
      rcases (hC j d).mp hd with hd | ⟨rfl, rfl⟩
      · have hprevails := hleads j d hd
        unfold Prevails at hprevails ⊢
        omega
      · exact .inr ⟨rfl, .inr ⟨rfl, Nat.le_refl _⟩⟩
    · next hworse =>
      refine ⟨i, (hC i b).mpr (.inl hb), ?_⟩
      intro j d hd
      rcases (hC j d).mp hd with hd | ⟨rfl, rfl⟩
      · exact hleads j d hd
      · have hfirst := hlast i b hb
        unfold Prevails
        omega

/-! ### Rules -/

private theorem competes_append_rule {r : CompiledRule} {i : Nat} {c : Candidate} :
    Competes g src pos (rules ++ [r]) [] i c ↔
      Competes g src pos rules [] i c ∨
        i = rules.length ∧ ∃ n rank, MatchesAt src r.head.start pos n ∧
          (r.head.literal = false → ¬ PatternMatches src pos rules) ∧ g.Ranks r rank ∧
          c = ⟨some r, r.head.cls, n, rank⟩ := by
  constructor
  · intro h
    cases h with
    | @rule i n rank q hq hmatch hfirst hrank =>
      by_cases hlt : i < rules.length
      · rw [List.getElem?_append_left hlt] at hq
        rw [List.take_append_of_le_length (Nat.le_of_lt hlt)] at hfirst
        exact .inl (.rule hq hmatch hfirst hrank)
      · obtain ⟨hbound, hget⟩ := List.getElem?_eq_some_iff.mp hq
        have hi : i = rules.length := by
          simp only [List.length_append, List.length_singleton] at hbound
          omega
        subst hi
        have hqr : q = r := by simpa using hget.symm
        subst hqr
        rw [List.take_left] at hfirst
        exact .inr ⟨rfl, n, rank, hmatch, hfirst, hrank, rfl⟩
    | category hc => simp at hc
  · rintro (h | ⟨rfl, n, rank, hmatch, hfirst, hrank, rfl⟩)
    · cases h with
      | rule hq hmatch hfirst hrank =>
        have hlt := (List.getElem?_eq_some_iff.mp hq).1
        have hfront : (rules ++ [r]).take i = rules.take i :=
          List.take_append_of_le_length (Nat.le_of_lt hlt)
        rw [← hfront] at hfirst
        exact .rule (by rwa [List.getElem?_append_left hlt]) hmatch hfirst hrank
      | category hc => simp at hc
    · exact .rule (by simp) hmatch (by rwa [List.take_left]) hrank

private theorem Competes.lt_length {i : Nat} {c : Candidate} (h : Competes g src pos rules [] i c) :
    i < rules.length := by
  cases h with
  | rule hr => exact (List.getElem?_eq_some_iff.mp hr).1
  | category hc => simp at hc

private theorem patternMatches_append {r : CompiledRule} :
    PatternMatches src pos (rules ++ [r]) ↔ PatternMatches src pos rules ∨
      r.head.literal = false ∧ ∃ n, MatchesAt src r.head.start pos n := by
  simp [PatternMatches, or_and_right, exists_or]

private theorem ruleCandidate?_eq_ok {r : CompiledRule} (h : ruleCandidate? g src pos r = .ok c?) :
    match c? with
    | none => ∀ n, ¬ MatchesAt src r.head.start pos n
    | some c => ∃ n, MatchesAt src r.head.start pos n ∧
        c = ⟨some r, r.head.cls, n, rankOf g r⟩ := by
  unfold ruleCandidate? at h
  obtain ⟨n?, hn, h⟩ := bind_eq_ok.mp h
  have hfound := lengthAt?_eq_ok.mp hn
  split at h
  · cases h
    exact not_matchesAt hfound (.inl rfl)
  · cases h
    exact not_matchesAt hfound (.inr rfl)
  · next n hzero =>
    cases h
    exact ⟨n, ⟨hfound, Nat.pos_of_ne_zero fun h0 ↦ hzero h0⟩, rfl⟩

private theorem bestRule_leads (hdistinct : (g.categories.map (·.cls)).Nodup)
    {done : List CompiledRule} {patternSeen : Bool}
    (hseen : patternSeen = true ↔ PatternMatches src pos done)
    (hbest : Leads (Competes g src pos done []) best)
    (h : bestRule g src pos patternSeen best rules = .ok c?) :
    Leads (Competes g src pos (done ++ rules) []) c? := by
  -- The rules in `done` were tried before. In each step the first of `rules` joins them.
  induction rules generalizing done patternSeen best with
  | nil =>
    cases h
    rwa [List.append_nil]
  | cons r rs ih =>
    rw [List.append_cons]
    -- What is left of the search once it is known whether the rule contends.
    have hpass (hno : ∀ n, ¬ MatchesAt src r.head.start pos n ∨
        r.head.literal = false ∧ PatternMatches src pos done) :
        Leads (Competes g src pos (done ++ [r]) []) best := by
      refine hbest.congr ?_
      intro j d
      rw [competes_append_rule, or_iff_left]
      rintro ⟨-, n, rank, hmatch, hfirst, -⟩
      rcases hno n with hno | ⟨hpattern, hbefore⟩
      · exact hno hmatch
      · exact hfirst hpattern hbefore
    unfold bestRule at h
    split at h
    · next hskip =>
      simp only [Bool.and_eq_true, Bool.not_eq_true'] at hskip
      refine ih ?_ (hpass fun n ↦ .inr ⟨hskip.1, hseen.mp hskip.2⟩) h
      rw [patternMatches_append]
      simp [hskip.2, hseen.mp hskip.2]
    · next hask =>
      obtain ⟨rc?, hrule, h⟩ := bind_eq_ok.mp h
      have hcandidate := ruleCandidate?_eq_ok hrule
      cases rc? with
      | none =>
        refine ih ?_ (hpass fun n ↦ .inl (hcandidate n)) h
        rw [patternMatches_append, hseen, or_iff_left]
        rintro ⟨-, n, hmatch⟩
        exact hcandidate n hmatch
      | some c =>
        obtain ⟨n, hmatch, rfl⟩ := hcandidate
        refine ih ?_ (hbest.better ?_ fun j d hd ↦ Nat.le_of_lt hd.lt_length) h
        · rw [patternMatches_append, Bool.or_eq_true, hseen, Bool.not_eq_true']
          exact or_congr_right ⟨fun hpattern ↦ ⟨hpattern, n, hmatch⟩, fun hpattern ↦ hpattern.1⟩
        · intro j d
          rw [competes_append_rule]
          refine or_congr_right (and_congr_right fun _ ↦ ?_)
          constructor
          · rintro ⟨k, rank, hk, -, hrank, rfl⟩
            rw [hmatch.unique hk, (ranks_iff hdistinct).mp hrank]
          · rintro rfl
            refine ⟨n, _, hmatch, ?_, (ranks_iff hdistinct).mpr rfl, rfl⟩
            intro hpattern hbefore
            simp [hpattern, hseen.mpr hbefore] at hask

/-! ### Categories -/

private theorem competes_append_category {x : CompiledCategory} {i : Nat} {c : Candidate} :
    Competes g src pos rules (categories ++ [x]) i c ↔
      Competes g src pos rules categories i c ∨
        i = rules.length + categories.length ∧ ∃ n, MatchesAt src x.pattern pos n ∧
          c = ⟨none, x.cls, n, categories.length⟩ := by
  constructor
  · intro h
    cases h with
    | rule hq hmatch hfirst hrank => exact .inl (.rule hq hmatch hfirst hrank)
    | @category i n y hy hmatch =>
      by_cases hlt : i < categories.length
      · rw [List.getElem?_append_left hlt] at hy
        exact .inl (.category hy hmatch)
      · obtain ⟨hbound, hget⟩ := List.getElem?_eq_some_iff.mp hy
        have hi : i = categories.length := by
          simp only [List.length_append, List.length_singleton] at hbound
          omega
        subst hi
        have hyx : y = x := by simpa using hget.symm
        subst hyx
        exact .inr ⟨rfl, n, hmatch, rfl⟩
  · rintro (h | ⟨rfl, n, hmatch, rfl⟩)
    · cases h with
      | rule hq hmatch hfirst hrank => exact .rule hq hmatch hfirst hrank
      | category hy hmatch =>
        have hlt := (List.getElem?_eq_some_iff.mp hy).1
        exact .category (by rwa [List.getElem?_append_left hlt]) hmatch
    · exact .category (by simp) hmatch

private theorem Competes.lt_size {i : Nat} {c : Candidate}
    (h : Competes g src pos rules categories i c) :
    i < rules.length + categories.length := by
  cases h with
  | rule hr =>
    have hlt := (List.getElem?_eq_some_iff.mp hr).1
    omega
  | category hc =>
    have hlt := (List.getElem?_eq_some_iff.mp hc).1
    omega

private theorem bestCategory_leads {done : List CompiledCategory}
    (hbest : Leads (Competes g src pos rules done) best)
    (h : bestCategory src pos done.length best categories = .ok c?) :
    Leads (Competes g src pos rules (done ++ categories)) c? := by
  -- The categories in `done` were tried before, as many as the index says.
  induction categories generalizing done best with
  | nil =>
    cases h
    rwa [List.append_nil]
  | cons x xs ih =>
    rw [List.append_cons]
    have hlength : (done ++ [x]).length = done.length + 1 := by simp
    have hpass (hno : ∀ n, ¬ MatchesAt src x.pattern pos n) :
        Leads (Competes g src pos rules (done ++ [x])) best := by
      refine hbest.congr ?_
      intro j d
      rw [competes_append_category, or_iff_left]
      rintro ⟨-, n, hmatch, -⟩
      exact hno n hmatch
    unfold bestCategory at h
    obtain ⟨n?, hn, h⟩ := bind_eq_ok.mp h
    have hfound := lengthAt?_eq_ok.mp hn
    rw [← hlength] at h
    split at h
    · exact ih (hpass (not_matchesAt hfound (.inl rfl))) h
    · exact ih (hpass (not_matchesAt hfound (.inr rfl))) h
    · next n hzero =>
      have hmatch : MatchesAt src x.pattern pos n :=
        ⟨hfound, Nat.pos_of_ne_zero fun h0 ↦ hzero h0⟩
      refine ih (hbest.better ?_ fun j d hd ↦ Nat.le_of_lt hd.lt_size) h
      intro j d
      rw [competes_append_category]
      refine or_congr_right (and_congr_right fun _ ↦ ?_)
      constructor
      · rintro ⟨k, hk, rfl⟩
        rw [hmatch.unique hk]
      · rintro rfl
        exact ⟨n, hmatch, rfl⟩

/-! ### Identifiers -/

/-- Where categories do not apply, only rules contend. -/
theorem contends_of_not_applies (hm : m.categories = false) {i : Nat} {c : Candidate} :
    Contends g src m pos i c ↔ Competes g src pos m.visible [] i c := by
  have hvisible : visibleCategories g m = [] := by simp [visibleCategories, hm]
  constructor
  · intro h
    cases h with
    | competitor h => rwa [hvisible] at h
    | name happlies _ _ => simp [hm] at happlies
  · intro h
    exact .competitor (hvisible ▸ h)

/-- Where categories apply, they contend, and an identifier does so that is longer than all else. -/
theorem contends_of_applies (hm : m.categories = true) {i : Nat} {c : Candidate} :
    Contends g src m pos i c ↔
      Competes g src pos m.visible g.categories i c ∨
        i = m.visible.length + g.categories.length ∧ ∃ n, MatchesAt src g.namePattern pos n ∧
          (∀ j d, Competes g src pos m.visible g.categories j d → d.length < n) ∧
          c = ⟨none, Class.identifier, n, 0⟩ := by
  have hvisible : visibleCategories g m = g.categories := by simp [visibleCategories, hm]
  constructor
  · intro h
    cases h with
    | competitor h =>
      rw [hvisible] at h
      exact .inl h
    | name _ hmatch hlonger => exact .inr ⟨rfl, _, hmatch, hlonger, rfl⟩
  · rintro (h | ⟨rfl, n, hmatch, hlonger, rfl⟩)
    · exact .competitor (hvisible ▸ h)
    · exact .name hm hmatch hlonger

private theorem Leads.longer {n : Nat} (h : Leads C best)
    (hbest : best.all (·.length < n) = true) {i : Nat} {c : Candidate} (hc : C i c) :
    c.length < n := by
  cases best with
  | none => exact absurd hc (h i c)
  | some b =>
    obtain ⟨k, -, hleads⟩ := h
    have hprevails := hleads i c hc
    have hshorter : b.length < n := by simpa using hbest
    unfold Prevails at hprevails
    omega

private theorem bestName_leads (hm : m.categories = true)
    (hbest : Leads (Competes g src pos m.visible g.categories) best)
    (h : bestName g src pos best = .ok c?) : Leads (Contends g src m pos) c? := by
  -- Unless an identifier is longer than the best so far, it does not contend.
  have hpass (hno : ∀ n, MatchesAt src g.namePattern pos n → ∃ b, best = some b ∧ n ≤ b.length) :
      Leads (Contends g src m pos) best := by
    refine hbest.congr ?_
    intro j d
    rw [contends_of_applies hm, or_iff_left]
    rintro ⟨-, n, hmatch, hlonger, -⟩
    obtain ⟨b, rfl, hle⟩ := hno n hmatch
    obtain ⟨i, hb, -⟩ := hbest
    exact absurd (hlonger i b hb) (Nat.not_lt.mpr hle)
  unfold bestName at h
  obtain ⟨n?, hn, h⟩ := bind_eq_ok.mp h
  have hfound := lengthAt?_eq_ok.mp hn
  cases n? with
  | none =>
    cases h
    refine hpass ?_
    intro n hmatch
    exact absurd hmatch (not_matchesAt hfound (.inl rfl) n)
  | some n =>
    cases h
    split
    · next hwins =>
      simp only [Bool.and_eq_true, decide_eq_true_eq] at hwins
      have hmatch : MatchesAt src g.namePattern pos n := ⟨hfound, hwins.1⟩
      refine ⟨_, .name hm hmatch fun i c hc ↦ hbest.longer hwins.2 hc, ?_⟩
      intro j d hd
      rcases (contends_of_applies hm).mp hd with hd | ⟨rfl, k, hk, -, rfl⟩
      · exact .inl (hbest.longer hwins.2 hd)
      · rw [hmatch.unique hk]
        exact .inr ⟨rfl, .inr ⟨rfl, Nat.le_refl _⟩⟩
    · next hloses =>
      refine hpass ?_
      intro k hk
      have hkn : n = k := by simpa using hfound.symm.trans hk.1
      subst hkn
      cases best with
      | none => simp [hk.2] at hloses
      | some b =>
        simp only [hk.2, decide_true, Bool.true_and, Option.all_some, decide_eq_true_eq] at hloses
        exact ⟨b, rfl, Nat.not_lt.mp hloses⟩

/-! ### The candidate -/

private theorem reclassify_eq_ok {w c : Candidate} (h : reclassify g src pos w = .ok c) :
    Settles g src pos w c := by
  unfold reclassify at h
  cases hrule : w.rule with
  | some r =>
    simp only [hrule, Option.isSome_some, ite_true] at h
    cases h
    exact .rule hrule
  | none =>
    simp only [hrule, Option.isSome_none, Bool.false_eq_true, ite_false] at h
    obtain ⟨lexeme, hlexeme, h⟩ := bind_eq_ok.mp h
    obtain ⟨cls, hcls, h⟩ := bind_eq_ok.mp h
    cases h
    rw [← hrule]
    exact .word hrule hlexeme hcls

/-- A contender that prevails over all contenders. -/
def Wins (g : CompiledGrammar) (src : Source) (m : Mode) (pos : Nat) (w : Candidate) : Prop :=
  ∃ i, Contends g src m pos i w ∧ ∀ j d, Contends g src m pos j d → Prevails i w j d

/-- What is chosen among the contenders: none of them if there are none, else the winner. -/
def Chosen (g : CompiledGrammar) (src : Source) (m : Mode) (pos : Nat) :
    Option Candidate → Prop
  | none => ∀ i w, ¬ Contends g src m pos i w
  | some c => ∃ w, Wins g src m pos w ∧ Settles g src pos w c

/-- What a step looks for is the contender that prevails. -/
theorem candidate?_chosen (hdistinct : (g.categories.map (·.cls)).Nodup)
    (h : candidate? g src m pos = .ok c?) : Chosen g src m pos c? := by
  have hnone : Leads (Competes g src pos [] []) none := by
    intro i c hc
    cases hc with
    | rule hr => simp at hr
    | category hc => simp at hc
  have hunseen : false = true ↔ PatternMatches src pos [] := by simp [PatternMatches]
  unfold candidate? at h
  obtain ⟨best, hrules, h⟩ := bind_eq_ok.mp h
  have hbest : Leads (Competes g src pos m.visible []) best :=
    bestRule_leads hdistinct hunseen hnone hrules
  cases hm : m.categories with
  | false =>
    simp only [hm, Bool.not_false, ite_true] at h
    cases h
    have hleads : Leads (Contends g src m pos) c? :=
      hbest.congr fun _ _ ↦ contends_of_not_applies hm
    cases c? with
    | none => exact hleads
    | some c =>
      obtain ⟨i, hc, hprevails⟩ := hleads
      refine ⟨c, ⟨i, hc, hprevails⟩, ?_⟩
      cases (contends_of_not_applies hm).mp hc with
      | rule _ _ _ _ => exact .rule rfl
      | category hx _ => cases hx
  | true =>
    simp only [hm, Bool.not_true, Bool.false_eq_true, ite_false] at h
    obtain ⟨best', hcategories, h⟩ := bind_eq_ok.mp h
    obtain ⟨w?, hname, h⟩ := bind_eq_ok.mp h
    have hbest' : Leads (Competes g src pos m.visible g.categories) best' :=
      bestCategory_leads hbest hcategories
    have hleads : Leads (Contends g src m pos) w? := bestName_leads hm hbest' hname
    cases w? with
    | none =>
      cases h
      exact hleads
    | some w =>
      obtain ⟨c, hsettled, h⟩ := bind_eq_ok.mp h
      cases h
      exact ⟨w, hleads, reclassify_eq_ok hsettled⟩

private theorem Competes.unique (hdistinct : (g.categories.map (·.cls)).Nodup) {i : Nat}
    {c d : Candidate} (h : Competes g src pos rules categories i c)
    (h' : Competes g src pos rules categories i d) : c = d := by
  cases h with
  | rule hr hmatch _ hrank =>
    cases h' with
    | rule hr' hmatch' _ hrank' =>
      rw [hr] at hr'
      cases hr'
      rw [hmatch.unique hmatch', (ranks_iff hdistinct).mp hrank, (ranks_iff hdistinct).mp hrank']
    | category _ _ =>
      have hlt := (List.getElem?_eq_some_iff.mp hr).1
      omega
  | @category k n x hx hmatch =>
    generalize hplace : rules.length + k = i at h'
    cases h' with
    | rule hr' _ _ _ =>
      have hlt := (List.getElem?_eq_some_iff.mp hr').1
      omega
    | @category l n' x' hx' hmatch' =>
      obtain rfl : k = l := by omega
      rw [hx] at hx'
      cases hx'
      rw [hmatch.unique hmatch']

private theorem Contends.unique (hdistinct : (g.categories.map (·.cls)).Nodup) {i : Nat}
    {c d : Candidate} (h : Contends g src m pos i c) (h' : Contends g src m pos i d) : c = d := by
  have hfront {i : Nat} {c : Candidate}
      (hc : Competes g src pos m.visible (visibleCategories g m) i c) :
      i < m.visible.length + g.categories.length := by
    have hlt := hc.lt_size
    unfold visibleCategories at hlt
    split at hlt
    · exact hlt
    · exact Nat.lt_of_lt_of_le hlt (by simp)
  cases h with
  | competitor h =>
    cases h' with
    | competitor h' => exact h.unique hdistinct h'
    | name _ _ _ => exact absurd (hfront h) (Nat.lt_irrefl _)
  | name _ hmatch _ =>
    generalize hplace : m.visible.length + g.categories.length = i at h'
    cases h' with
    | competitor h' => exact absurd (hfront h') (by omega)
    | name _ hmatch' _ => rw [hmatch.unique hmatch']

/-- There is one winner at most. -/
theorem Wins.unique (hdistinct : (g.categories.map (·.cls)).Nodup) {w d : Candidate}
    (hw : Wins g src m pos w) (hd : Wins g src m pos d) : w = d := by
  obtain ⟨i, hi, hover⟩ := hw
  obtain ⟨j, hj, hover'⟩ := hd
  have hij := hover j d hj
  have hji := hover' i w hi
  obtain rfl : i = j := by
    unfold Prevails at hij hji
    omega
  exact hi.unique hdistinct hj

/-- The best match is taken. Wherever a scan of a compiled grammar looks for a candidate, the
search fails only as the searches for patterns there do; otherwise it finds none exactly if nothing
contends, and what it finds comes from the one contender that prevails over all others. -/
theorem candidate_wins {gr : Grammar} {g : CompiledGrammar} (hg : compile gr = .ok g)
    {maxDepth : Int} {text : ByteArray} {s : ScanState}
    (hs : Reaches g maxDepth (Source.ofText text) s) :
    (∀ e, candidate? g (Source.ofText text) s.stack.top s.pos = .error e →
      g.SearchError (Source.ofText text) s.pos e) ∧
    ∀ c?, candidate? g (Source.ofText text) s.stack.top s.pos = .ok c? →
      (c? = none ↔ ∀ i w, ¬ Contends g (Source.ofText text) s.stack.top s.pos i w) ∧
      ∀ c, c? = some c → ∃ w, Wins g (Source.ofText text) s.stack.top s.pos w ∧
        (∀ d, Wins g (Source.ofText text) s.stack.top s.pos d → d = w) ∧
        Settles g (Source.ofText text) s.pos w c := by
  have hdistinct := (compile_categories hg).1
  have hbelongs := hs.belongsTo
  constructor
  · intro e he
    exact (candidate?_yields hbelongs.top hs.pos_le).error he
  · intro c? hc
    have hchosen := candidate?_chosen hdistinct hc
    cases c? with
    | none =>
      constructor
      · exact iff_of_true rfl hchosen
      · intro c h
        cases h
    | some c =>
      obtain ⟨w, hw, hsettled⟩ := hchosen
      constructor
      · obtain ⟨i, hi, -⟩ := hw
        exact iff_of_false (fun h ↦ nomatch h) fun hnone ↦ hnone i w hi
      · rintro _ ⟨⟩
        exact ⟨w, hw, fun d hd ↦ hd.unique hdistinct hw, hsettled⟩

/-- A word of a category is taken for one although it could be an identifier. -/
theorem candidate_wins_twoCategories :
    ∃ g, compile twoCategories = .ok g ∧ ∃ c w,
      candidate? g (Source.ofText "int".toUTF8) (start g 0).stack.top 0 = .ok (some c) ∧
        c.cls = "type" ∧ Wins g (Source.ofText "int".toUTF8) (start g 0).stack.top 0 w ∧
        Settles g (Source.ofText "int".toUTF8) 0 w c := by
  obtain ⟨g, hg, hfound⟩ := exists_compiled twoCategories
    (fun g ↦ (candidate? g (Source.ofText "int".toUTF8) (start g 0).stack.top 0).toOption.join.any
      (·.cls == "type")) (by decide +kernel)
  have hstart : Reaches g 0 (Source.ofText "int".toUTF8) (start g 0) := ⟨[], .nil _⟩
  obtain ⟨-, hwins⟩ := candidate_wins hg hstart
  cases hc : candidate? g (Source.ofText "int".toUTF8) (start g 0).stack.top 0 with
  | error e =>
    rw [hc] at hfound
    cases hfound
  | ok c? =>
    rw [hc] at hfound
    cases c? with
    | none => cases hfound
    | some c =>
      obtain ⟨w, hw, -, hsettled⟩ := (hwins (some c) hc).2 c rfl
      exact ⟨g, hg, c, w, hc, eq_of_beq hfound, hw, hsettled⟩

end Scan

end CodeViewer
