import CodeViewer.Proofs.Pattern.Extent
import CodeViewer.Proofs.Scan.ModeStack
import CodeViewer.Proofs.Text.Pieces
import CodeViewer.Scan.Step

/-!
# What the searches of a step find

A step searches for patterns of the grammar only. Each of its searches finds a match of such a
pattern or fails because a search breaks down or leaves the text; what is taken as a candidate is
a match that consumes text.
-/

namespace CodeViewer

open Text (Source)

/-! ### The patterns of a grammar -/

/-- The patterns that are searched for because of a mode. -/
def ModeSpec.patterns (m : ModeSpec) : List Pattern := m.finish.toList ++ m.illegal.toList

/-- The patterns that are searched for because of a rule. -/
def CompiledRule.patterns (r : CompiledRule) : List Pattern := r.head.start :: r.modeSpec.patterns

namespace CompiledGrammar

/-- The patterns a scan searches a text for. -/
def patterns (g : CompiledGrammar) : List Pattern :=
  g.namePattern :: g.categories.map (·.pattern) ++ g.root.patterns
    ++ g.allRules.flatMap CompiledRule.patterns

/-- Wherever in a text a search for a pattern of the grammar starts, what it finds ends in the
text. -/
def MatchesLieIn (g : CompiledGrammar) (src : Source) : Prop :=
  ∀ p ∈ g.patterns, ∀ pos ≤ src.size, ∀ n,
    p.matchLength? src.chars pos = .ok (some n) → pos + n ≤ src.size

/-- A search of the grammar breaks down that starts at an index of a text or behind it: a search
for a pattern, or that for a whole name in a lexeme. -/
inductive BreaksDown (g : CompiledGrammar) (src : Source) (start : Nat) (b : Pattern.Breakdown) :
    Prop where
  | pattern {p : Pattern} {pos : Nat} : p ∈ g.patterns → start ≤ pos → pos ≤ src.size →
      p.matchLength? src.chars pos = .error b → BreaksDown g src start b
  | name {lexeme : String} {pos stop : Nat} : start ≤ pos →
      Scan.excerpt src pos stop = .ok lexeme →
      g.wholeName.matchLength? lexeme.toList.toArray 0 = .error b → BreaksDown g src start b

/-- The errors that searches of a grammar lead to which start at an index of a text or behind it: a
search breaks down, or a match leaves the text. -/
inductive SearchError (g : CompiledGrammar) (src : Source) (start : Nat) : ScanError → Prop where
  | pattern {p : Pattern} {pos : Nat} {b : Pattern.Breakdown} : p ∈ g.patterns →
      start ≤ pos → pos ≤ src.size → p.matchLength? src.chars pos = .error b →
      SearchError g src start (.ofBreakdown (src.offset pos) b)
  | name {lexeme : String} {pos stop : Nat} : start ≤ pos →
      Scan.excerpt src pos stop = .ok lexeme →
      g.wholeName.matchLength? lexeme.toList.toArray 0 = .error .outOfRange →
      SearchError g src start .outOfText
  | overrun {p : Pattern} {pos n : Nat} : p ∈ g.patterns → start ≤ pos → pos ≤ src.size →
      p.matchLength? src.chars pos = .ok (some n) → src.size < pos + n →
      SearchError g src start .outOfText

/-- In a grammar of steady patterns every match lies in the text. -/
theorem matchesLieIn_of_steady {g : CompiledGrammar} (src : Source)
    (h : ∀ p ∈ g.patterns, p.program = none) : g.MatchesLieIn src :=
  fun p hp pos hpos n hn ↦ p.matchLength?_within (h p hp) src.chars pos n hpos hn

/-- In a grammar of steady patterns no search leads to an error. -/
theorem not_searchError_of_steady {g : CompiledGrammar} {src : Source} {start : Nat} {e : ScanError}
    (hname : g.wholeName.program = none) (h : ∀ p ∈ g.patterns, p.program = none) :
    ¬ g.SearchError src start e := by
  intro he
  cases he with
  | pattern hp _ _ hb =>
    rw [Pattern.matchLength?, h _ hp] at hb
    cases hb
  | name _ _ hb =>
    rw [Pattern.matchLength?, hname] at hb
    cases hb
  | overrun hp _ hpos hn hlt =>
    exact Nat.not_le.mpr hlt (matchesLieIn_of_steady src h _ hp _ hpos _ hn)

/-- What starts behind an index starts behind every index in front of it. -/
theorem SearchError.mono {g : CompiledGrammar} {src : Source} {start start' : Nat} {e : ScanError}
    (h : g.SearchError src start e) (hle : start' ≤ start) : g.SearchError src start' e := by
  cases h with
  | pattern hp hstart hpos hb => exact .pattern hp (Nat.le_trans hle hstart) hpos hb
  | name hstart hlexeme hb => exact .name (Nat.le_trans hle hstart) hlexeme hb
  | overrun hp hstart hpos hn hlt => exact .overrun hp (Nat.le_trans hle hstart) hpos hn hlt

/-- Where matches lie in the text, only a search that leaves it by itself leads beyond it. -/
theorem SearchError.breaksDown {g : CompiledGrammar} {src : Source} {start : Nat} {e : ScanError}
    (h : g.SearchError src start e) (hm : g.MatchesLieIn src) (he : e = .outOfText) :
    g.BreaksDown src start .outOfRange := by
  cases h with
  | @pattern p pos b hp hstart hpos hb =>
    cases b with
    | outOfRange => exact .pattern hp hstart hpos hb
    | unknownInstruction => cases he
  | name hstart hlexeme hb => exact .name hstart hlexeme hb
  | overrun hp _ hpos hn hlt => exact absurd (hm _ hp _ hpos _ hn) (Nat.not_le.mpr hlt)

/-- Searches close no mode. -/
theorem SearchError.ne_closedTopLevel {g : CompiledGrammar} {src : Source} {start : Nat}
    {e : ScanError} (h : g.SearchError src start e) : e ≠ .closedTopLevel := by
  cases h with
  | @pattern p pos b hp hstart hpos hb => cases b <;> exact fun he ↦ nomatch he
  | name hstart hlexeme hb => exact fun he ↦ nomatch he
  | overrun hp hstart hpos hn hlt => exact fun he ↦ nomatch he

end CompiledGrammar

section

variable {g : CompiledGrammar} {m : Mode}

private theorem patterns_of_rule {r : CompiledRule} (hr : r ∈ g.allRules) {p : Pattern}
    (hp : p ∈ r.patterns) : p ∈ g.patterns :=
  List.mem_append.mpr (.inr (List.mem_flatMap.mpr ⟨r, hr, hp⟩))

private theorem patterns_of_mode (hm : m.BelongsTo g) {p : Pattern}
    (hp : p ∈ m.spec.patterns) : p ∈ g.patterns := by
  rcases hm.spec with he | ⟨r, hr, he⟩
  · rw [he] at hp
    exact List.mem_append.mpr (.inl (List.mem_append.mpr (.inr hp)))
  · rw [he] at hp
    exact patterns_of_rule hr (List.mem_cons_of_mem _ hp)

private theorem patterns_of_category {c : CompiledCategory} (hc : c ∈ g.categories) :
    c.pattern ∈ g.patterns :=
  List.mem_append.mpr (.inl (List.mem_append.mpr (.inl
    (List.mem_cons_of_mem _ (List.mem_map_of_mem hc)))))

private theorem Mode.BelongsTo.finish (hm : m.BelongsTo g) {p : Pattern}
    (hp : m.spec.finish = some p) :
    p ∈ g.patterns :=
  patterns_of_mode hm (by simp [ModeSpec.patterns, hp])

private theorem Mode.BelongsTo.illegal (hm : m.BelongsTo g) {p : Pattern}
    (hp : m.spec.illegal = some p) : p ∈ g.patterns :=
  patterns_of_mode hm (by simp [ModeSpec.patterns, hp])

end

namespace Scan

variable {g : CompiledGrammar} {src : Source} {m : Mode} {pos : Nat}

/-! ### Single searches -/

/-- A search finds a match of its pattern. -/
theorem lengthAt?_eq_ok {p : Pattern} {n? : Option Nat} :
    lengthAt? src p pos = .ok n? ↔ p.matchLength? src.chars pos = .ok n? :=
  mapError_eq_ok

private theorem lengthAt?_yields {p : Pattern} (hp : p ∈ g.patterns) (hpos : pos ≤ src.size) :
    Yields (lengthAt? src p pos) (g.SearchError src pos)
      (fun n? ↦ p.matchLength? src.chars pos = .ok n?) := by
  cases h : lengthAt? src p pos with
  | error e =>
    obtain ⟨b, hb, rfl⟩ := mapError_eq_error.mp h
    exact .pattern hp (Nat.le_refl pos) hpos hb
  | ok n? => exact lengthAt?_eq_ok.mp h

private theorem optionalAt?_yields (p? : Option Pattern)
    (hp : ∀ p, p? = some p → p ∈ g.patterns) (hpos : pos ≤ src.size) :
    Yields (optionalAt? src p? pos) (g.SearchError src pos)
      (fun n? ↦ ∀ n, n? = some n →
        ∃ p ∈ g.patterns, p.matchLength? src.chars pos = .ok (some n)) := by
  cases p? with
  | none => exact fun n h ↦ nomatch h
  | some p =>
    refine (lengthAt?_yields (hp p rfl) hpos).imp fun n? hn n h ↦ ?_
    exact ⟨p, hp p rfl, h ▸ hn⟩

/-- Looking for the end of a mode finds a match of a pattern of the grammar. -/
theorem finish_yields (hm : m.BelongsTo g) (hpos : pos ≤ src.size) :
    Yields (optionalAt? src m.spec.finish pos) (g.SearchError src pos)
      (fun n? ↦ ∀ n, n? = some n →
        ∃ p ∈ g.patterns, p.matchLength? src.chars pos = .ok (some n)) :=
  optionalAt?_yields m.spec.finish (fun _ ↦ hm.finish) hpos

private theorem excerpt_yields {p : Pattern} {n : Nat} (hp : p ∈ g.patterns)
    (hpos : pos ≤ src.size) (hn : p.matchLength? src.chars pos = .ok (some n)) :
    Yields (excerpt src pos (pos + n)) (g.SearchError src pos)
      (fun text ↦ excerpt src pos (pos + n) = .ok text) := by
  cases h : excerpt src pos (pos + n) with
  | ok text => rfl
  | error e =>
    unfold excerpt at h
    split at h
    · cases h
    · next hnone =>
      cases h
      refine .overrun hp (Nat.le_refl pos) hpos hn (Nat.not_le.mp fun hle ↦ ?_)
      rw [src.excerpt?_of_le pos (pos + n) hle] at hnone
      cases hnone

/-- Looking for illegal text fails as searches do, or because there is some. -/
theorem checkIllegal_yields (hm : m.BelongsTo g) (hpos : pos ≤ src.size) :
    Yields (checkIllegal src m pos)
      (fun e ↦ g.SearchError src pos e ∨
        ∃ n text, optionalAt? src m.spec.illegal pos = .ok (some n) ∧
          excerpt src pos (pos + n) = .ok text ∧
          e = .illegalEntry m.spec.cls (src.offset pos) text)
      (fun _ ↦ optionalAt? src m.spec.illegal pos = .ok none) := by
  have hsearch := optionalAt?_yields m.spec.illegal (fun _ ↦ hm.illegal) hpos
  unfold checkIllegal
  cases hn : optionalAt? src m.spec.illegal pos with
  | error e => exact Or.inl (hsearch.error hn)
  | ok n? =>
    cases n? with
    | none => rfl
    | some n =>
      obtain ⟨p, hp, hmatch⟩ := hsearch.ok hn n rfl
      have hexcerpt := excerpt_yields hp hpos hmatch
      cases htext : excerpt src pos (pos + n) with
      | error e =>
        simp only [bind, Except.bind, htext]
        exact Or.inl (hexcerpt.error htext)
      | ok text =>
        simp only [bind, Except.bind, htext]
        exact Or.inr ⟨n, text, rfl, htext, rfl⟩

/-- Looking for the end of the modes around fails only as searches do. -/
theorem parentEnds_yields {parents : List Mode} (hparents : ∀ p ∈ parents, p.BelongsTo g)
    (hpos : pos ≤ src.size) :
    Yields (parentEnds src pos parents) (g.SearchError src pos) (fun _ ↦ True) := by
  induction parents with
  | nil => trivial
  | cons p ps ih =>
    unfold parentEnds
    refine (finish_yields (hparents p (by simp)) hpos).bind fun n? _ ↦ ?_
    split
    · trivial
    · split
      · exact ih (fun q hq ↦ hparents q (List.mem_cons_of_mem _ hq))
      · trivial

/-! ### Candidates -/

/-- A candidate is a match of a pattern of the grammar that consumes text; one of a rule is a
match of the beginning of a rule that applies in the mode. -/
structure Candidate.IsMatch (g : CompiledGrammar) (src : Source) (m : Mode) (pos : Nat)
    (c : Candidate) : Prop where
  length_pos : 0 < c.length
  found : ∃ p ∈ g.patterns, p.matchLength? src.chars pos = .ok (some c.length)
  rule : ∀ r, c.rule = some r → r ∈ m.visible ∧ c.cls = r.head.cls ∧
    r.head.start.matchLength? src.chars pos = .ok (some c.length)

/-- If there is a candidate, it is a match. -/
def AreMatches (g : CompiledGrammar) (src : Source) (m : Mode) (pos : Nat)
    (c? : Option Candidate) : Prop :=
  ∀ c, c? = some c → c.IsMatch g src m pos

private theorem better_areMatches {best : Option Candidate} {c : Candidate}
    (hb : AreMatches g src m pos best) (hc : c.IsMatch g src m pos) :
    AreMatches g src m pos (better best c) := by
  intro b h
  unfold better at h
  split at h
  · cases h
    exact hc
  · split at h
    · cases h
      exact hc
    · exact hb b h

private theorem ruleCandidate?_yields {r : CompiledRule} (hm : m.BelongsTo g)
    (hr : r ∈ m.visible) (hpos : pos ≤ src.size) :
    Yields (ruleCandidate? g src pos r) (g.SearchError src pos) (AreMatches g src m pos) := by
  have hstart : r.head.start ∈ g.patterns :=
    patterns_of_rule (hm.visible r hr) (List.mem_cons_self ..)
  unfold ruleCandidate?
  refine (lengthAt?_yields hstart hpos).bind fun n? hn ↦ ?_
  split
  · exact fun c h ↦ nomatch h
  · exact fun c h ↦ nomatch h
  · next n hzero =>
    rintro _ ⟨⟩
    refine ⟨Nat.pos_of_ne_zero fun h0 ↦ hzero h0, ⟨_, hstart, hn⟩, ?_⟩
    rintro _ ⟨⟩
    exact ⟨hr, rfl, hn⟩

private theorem bestRule_yields {rules : List CompiledRule} {patternSeen : Bool}
    {best : Option Candidate} (hm : m.BelongsTo g) (hpos : pos ≤ src.size)
    (hrules : ∀ r ∈ rules, r ∈ m.visible) (hb : AreMatches g src m pos best) :
    Yields (bestRule g src pos patternSeen best rules) (g.SearchError src pos)
      (AreMatches g src m pos) := by
  induction rules generalizing patternSeen best with
  | nil => exact hb
  | cons r rs ih =>
    have hrs : ∀ x ∈ rs, x ∈ m.visible := fun x hx ↦ hrules x (List.mem_cons_of_mem _ hx)
    unfold bestRule
    split
    · exact ih hrs hb
    · refine (ruleCandidate?_yields hm (hrules r (by simp)) hpos).bind fun c? hc ↦ ?_
      cases c? with
      | none => exact ih hrs hb
      | some c => exact ih hrs (better_areMatches hb (hc c rfl))

private theorem bestCategory_yields {categories : List CompiledCategory} {index : Nat}
    {best : Option Candidate} (hpos : pos ≤ src.size)
    (hcategories : ∀ c ∈ categories, c ∈ g.categories) (hb : AreMatches g src m pos best) :
    Yields (bestCategory src pos index best categories) (g.SearchError src pos)
      (AreMatches g src m pos) := by
  induction categories generalizing index best with
  | nil => exact hb
  | cons x xs ih =>
    have hxs : ∀ c ∈ xs, c ∈ g.categories :=
      fun c hc ↦ hcategories c (List.mem_cons_of_mem _ hc)
    have hx := patterns_of_category (hcategories x (by simp))
    unfold bestCategory
    refine (lengthAt?_yields hx hpos).bind fun n? hn ↦ ?_
    split
    · exact ih hxs hb
    · exact ih hxs hb
    · next n hzero =>
      have hpositive : 0 < n := Nat.pos_of_ne_zero fun h0 ↦ hzero h0
      exact ih hxs (better_areMatches hb ⟨hpositive, ⟨_, hx, hn⟩, fun r h ↦ nomatch h⟩)

private theorem bestName_yields {best : Option Candidate} (hpos : pos ≤ src.size)
    (hb : AreMatches g src m pos best) :
    Yields (bestName g src pos best) (g.SearchError src pos) (AreMatches g src m pos) := by
  have hname : g.namePattern ∈ g.patterns := by simp [CompiledGrammar.patterns]
  unfold bestName
  refine (lengthAt?_yields hname hpos).bind fun n? hn ↦ ?_
  cases n? with
  | none => exact hb
  | some n =>
    intro c h
    split at h
    · next hlonger =>
      cases h
      simp only [Bool.and_eq_true, decide_eq_true_eq] at hlonger
      exact ⟨hlonger.1, ⟨_, hname, hn⟩, fun r h ↦ nomatch h⟩
    · exact hb c h

private theorem classify_yields {lexeme : String} {stop : Nat}
    (hlexeme : excerpt src pos stop = .ok lexeme) (hint : Class) :
    Yields (g.classify lexeme hint) (g.SearchError src pos) (fun _ ↦ True) := by
  unfold CompiledGrammar.classify
  split
  · trivial
  · split
    · trivial
    · refine .map ?_
      unfold CompiledGrammar.isName
      split
      · trivial
      · trivial
      · next hb => exact .name (Nat.le_refl pos) hlexeme hb

private theorem reclassify_yields {c : Candidate} (hpos : pos ≤ src.size)
    (hc : c.IsMatch g src m pos) :
    Yields (reclassify g src pos c) (g.SearchError src pos) (Candidate.IsMatch g src m pos) := by
  obtain ⟨p, hp, hmatch⟩ := hc.found
  unfold reclassify
  split
  · exact hc
  · next hrule =>
    refine (excerpt_yields hp hpos hmatch).bind fun text htext ↦ ?_
    refine (classify_yields htext c.cls).bind fun cls _ ↦ ?_
    exact ⟨hc.length_pos, hc.found, fun r hr ↦ absurd (Option.isSome_of_eq_some hr) hrule⟩

/-- The choice of a candidate fails only as searches do, and what it chooses is a match that
consumes text. -/
theorem candidate?_yields (hm : m.BelongsTo g) (hpos : pos ≤ src.size) :
    Yields (candidate? g src m pos) (g.SearchError src pos) (AreMatches g src m pos) := by
  have hnone : AreMatches g src m pos none := fun c h ↦ nomatch h
  unfold candidate?
  refine (bestRule_yields hm hpos (fun r hr ↦ hr) hnone).bind fun best hbest ↦ ?_
  split
  · exact hbest
  · refine (bestCategory_yields hpos (fun c hc ↦ hc) hbest).bind fun best' hbest' ↦ ?_
    refine (bestName_yields hpos hbest').bind fun c? hc ↦ ?_
    cases c? with
    | none => exact fun c h ↦ nomatch h
    | some c =>
      refine (reclassify_yields hpos (hc c rfl)).bind fun c' hc' ↦ ?_
      rintro _ ⟨⟩
      exact hc'

/-! ### Absorbed text -/

/-- Looking whether anything happens fails only as searches do. -/
theorem happensAt_yields {parents : List Mode} (hm : m.BelongsTo g)
    (hparents : ∀ p ∈ parents, p.BelongsTo g) (hpos : pos ≤ src.size) :
    Yields (happensAt g src m parents pos) (g.SearchError src pos) (fun _ ↦ True) := by
  have hcandidate (b : Bool) : Yields (do
      if b then return true else return (← candidate? g src m pos).isSome)
      (g.SearchError src pos) (fun _ ↦ True) := by
    split
    · trivial
    · exact (candidate?_yields hm hpos).bind fun c? _ ↦ trivial
  unfold happensAt
  refine (finish_yields hm hpos).bind fun n? _ ↦ ?_
  split
  · trivial
  · split
    · exact (parentEnds_yields hparents hpos).bind fun b _ ↦ hcandidate b
    · exact hcandidate false

/-- The text a mode absorbs ends in the text, not before it starts. -/
theorem absorbedEnd_yields {parents : List Mode} (fuel : Nat) (hm : m.BelongsTo g)
    (hparents : ∀ p ∈ parents, p.BelongsTo g) (hpos : pos ≤ src.size) :
    Yields (absorbedEnd g src m parents fuel pos) (g.SearchError src pos)
      (fun stop ↦ pos ≤ stop ∧ stop ≤ src.size) := by
  induction fuel generalizing pos with
  | zero => exact ⟨Nat.le_refl _, hpos⟩
  | succ fuel ih =>
    unfold absorbedEnd
    split
    · next hleft =>
      simp only [Bool.and_eq_true, decide_eq_true_eq] at hleft
      refine (happensAt_yields hm hparents hpos).bind fun b _ ↦ ?_
      split
      · exact ⟨Nat.le_refl _, hpos⟩
      · have hbehind := (ih hleft.1).imp_error fun e he ↦ he.mono (Nat.le_succ pos)
        exact hbehind.imp fun stop h ↦ ⟨by omega, h.2⟩
    · exact ⟨Nat.le_refl _, hpos⟩

end Scan

end CodeViewer
