import CodeViewer.Grammar.Compile
import CodeViewer.Proofs.Except

/-!
# Well-formed grammars

Compiling accepts exactly the grammars that are well formed. What that means is said here for each
part of a grammar by itself, without the order in which the parts are looked at. The order matters
only for the flaw that is reported: of the rules it is that of the first one that is not well
formed, in the order of the grammar.
-/

namespace CodeViewer

/-! ### Patterns and words -/

/-- A pattern of this text is accepted. -/
def Accepted (text : String) : Prop := ∃ node, Pattern.parse text = .ok node

/-- A pattern of this text is accepted where the search starts. -/
def AcceptedThere (text : String) : Prop := Accepted ("\\G(?:" ++ text ++ ")")

/-- A list of words: there are some, none of them is empty and none stands there twice. -/
structure ProperWords (words : List String) : Prop where
  some : words ≠ []
  nonempty : "" ∉ words
  distinct : words.Nodup

/-- A refusal says which grammar is refused, and where. -/
def InvalidGrammar.IsAt (grammar path : String) (e : InvalidGrammar) : Prop :=
  e.grammar = grammar ∧ e.path = path

/-- A flaw of a rule is reported at the rule or at one of its two further patterns. -/
def InvalidGrammar.IsIn (grammar path : String) (e : InvalidGrammar) : Prop :=
  e.grammar = grammar ∧ (e.path = path ∨ e.path = path ++ ".end" ∨ e.path = path ++ ".illegal")

open InvalidGrammar

private theorem compilePattern_checks (grammar path text : String) :
    Checks (compilePattern grammar path text) (Accepted text) (IsAt grammar path) := by
  unfold compilePattern
  cases h : Pattern.parse text with
  | ok node => exact .of_ok ⟨node, h⟩
  | error e =>
    refine .of_error ?_ ⟨rfl, rfl⟩
    rintro ⟨node, hnode⟩
    rw [h] at hnode
    cases hnode

private theorem compileAnchored_checks (grammar path text : String) :
    Checks (compileAnchored grammar path text) (AcceptedThere text) (IsAt grammar path) :=
  compilePattern_checks grammar path _

private theorem compileOptional_checks (grammar path text : String) :
    Checks (compileOptional grammar path text) (text ≠ "" → AcceptedThere text)
      (IsAt grammar path) := by
  unfold compileOptional
  split
  · next h => exact .of_ok fun hne ↦ absurd (eq_of_beq h) hne
  · next h =>
    have hne : text ≠ "" := fun he ↦ h (beq_iff_eq.mpr he)
    refine .map ((compileAnchored_checks grammar path text).congr ?_)
    exact ⟨fun h _ ↦ h, fun h ↦ h hne⟩

private theorem wordFlaw?_eq_none_iff (passed words : List String) :
    wordFlaw? passed words = none ↔
      "" ∉ words ∧ words.Nodup ∧ ∀ w ∈ words, w ∉ passed := by
  induction words generalizing passed with
  | nil => simp [wordFlaw?]
  | cons w ws ih =>
    unfold wordFlaw?
    split
    · next h => simp [eq_of_beq h]
    · next h =>
      have hne : ¬ "" = w := fun he ↦ h (beq_iff_eq.mpr he.symm)
      simp only [List.contains_iff_mem]
      split
      · next hmem => simp [hmem]
      · next hmem =>
        rw [ih]
        simp only [List.mem_cons, hne, false_or, List.nodup_cons, not_or, forall_eq_or_imp]
        constructor
        · rintro ⟨hnonempty, hnodup, hnew⟩
          exact ⟨hnonempty, ⟨fun hw ↦ (hnew w hw).1 rfl, hnodup⟩, hmem, fun x hx ↦ (hnew x hx).2⟩
        · rintro ⟨hnonempty, ⟨hw, hnodup⟩, -, hnew⟩
          exact ⟨hnonempty, hnodup, fun x hx ↦ ⟨fun he ↦ hw (he ▸ hx), hnew x hx⟩⟩

/-- Words have no flaw exactly if they are as they should be. -/
theorem wordsFlaw?_eq_none_iff {words : List String} :
    wordsFlaw? words = none ↔ ProperWords words := by
  unfold wordsFlaw?
  cases words with
  | nil =>
    simp only [List.isEmpty_nil, ite_true]
    constructor
    · intro h
      cases h
    · intro h
      exact absurd rfl h.some
  | cons w ws =>
    simp only [List.isEmpty_cons, Bool.false_eq_true, ite_false, wordFlaw?_eq_none_iff]
    constructor
    · rintro ⟨hnonempty, hnodup, -⟩
      exact ⟨List.cons_ne_nil w ws, hnonempty, hnodup⟩
    · intro h
      exact ⟨h.nonempty, h.distinct, fun x _ ↦ List.not_mem_nil⟩

/-! ### Categories -/

/-- A category has a class and words, whose pattern is accepted. -/
structure Category.WellFormed (c : Category) : Prop where
  cls : c.cls ≠ ""
  words : ProperWords c.words
  pattern : AcceptedThere (wordsPattern c.words)

private theorem compileCategories_checks (grammar : String) (index : Nat) (passed : List Class)
    (cs : List Category) :
    Checks (compileCategories grammar index passed cs)
      ((∀ c ∈ cs, c.WellFormed) ∧ (cs.map (·.cls)).Nodup ∧ ∀ c ∈ cs, c.cls ∉ passed)
      (fun e ↦ e.grammar = grammar) := by
  induction cs generalizing index passed with
  | nil => exact .of_ok (by simp)
  | cons c cs ih =>
    unfold compileCategories
    simp only [List.map_cons, List.nodup_cons, List.forall_mem_cons]
    split
    · next h => exact .of_error (fun hwf ↦ hwf.1.1.cls (eq_of_beq h)) rfl
    · next h =>
      have hcls : c.cls ≠ "" := fun he ↦ h (beq_iff_eq.mpr he)
      split
      · next hmem =>
        exact .of_error (fun hwf ↦ hwf.2.2.1 (List.contains_iff_mem.mp hmem)) rfl
      · next hmem =>
        have hnew : c.cls ∉ passed := fun he ↦ hmem (List.contains_iff_mem.mpr he)
        split
        · next flaw hflaw =>
          refine .of_error (fun hwf ↦ ?_) rfl
          rw [wordsFlaw?_eq_none_iff.mpr hwf.1.1.words] at hflaw
          cases hflaw
        · next hwords =>
          have hproper := wordsFlaw?_eq_none_iff.mp hwords
          have hpattern := (compileAnchored_checks grammar ("categories[" ++ toString index ++ "]")
            (wordsPattern c.words)).imp_error fun e he ↦ he.1
          have hrest := ih (index + 1) (c.cls :: passed)
          refine (hpattern.bind fun _ ↦ hrest.bind fun _ ↦ .of_ok trivial).congr ?_
          simp only [List.mem_cons, not_or]
          constructor
          · rintro ⟨hpattern, ⟨heach, hnodup, hlater⟩, -⟩
            refine ⟨⟨⟨hcls, hproper, hpattern⟩, heach⟩, ⟨?_, hnodup⟩, hnew,
              fun x hx ↦ (hlater x hx).2⟩
            intro hc
            obtain ⟨x, hx, he⟩ := List.mem_map.mp hc
            exact (hlater x hx).1 he
          · rintro ⟨⟨hwf, heach⟩, ⟨hfirst, hnodup⟩, -, hlater⟩
            refine ⟨hwf.pattern, ⟨heach, hnodup, fun x hx ↦ ⟨fun he ↦ ?_, hlater x hx⟩⟩, trivial⟩
            exact hfirst (List.mem_map.mpr ⟨x, hx, he⟩)

/-! ### Rules by themselves -/

/-- What a rule begins with: exactly one of a pattern, a literal and a list of words, which may be
empty only if it is not given. -/
inductive RuleAttributes.BeginsWith (a : RuleAttributes) : (source : String) → Prop where
  | pattern : a.pattern ≠ "" → a.literal = "" → a.keywords = none → a.BeginsWith a.pattern
  | literal : a.pattern = "" → a.literal ≠ "" → a.keywords = none →
      a.BeginsWith (Pattern.escape a.literal)
  | keywords {words : List String} : a.pattern = "" → a.literal = "" →
      a.keywords = some words → ProperWords words → a.BeginsWith (wordsPattern words)

/-- A mode ends in exactly one way, deals with its end in at most one, and its patterns are
accepted. -/
structure RuleAttributes.ProperMode (a : RuleAttributes) : Prop where
  oneEnd : a.finish ≠ "" ↔ a.endsWithParent = false
  endDealtWith : ¬ (a.excludeEnd = true ∧ a.returnEnd = true)
  finish : a.finish ≠ "" → AcceptedThere a.finish
  illegal : a.illegal ≠ "" → AcceptedThere a.illegal

/-- No attribute is set that makes sense for modes only. -/
structure RuleAttributes.WithoutMode (a : RuleAttributes) : Prop where
  excludeEnd : a.excludeEnd = false
  returnEnd : a.returnEnd = false
  noInherit : a.noInherit = false
  useCategories : a.useCategories = false
  absorbUnmatched : a.absorbUnmatched = false
  illegal : a.illegal = ""

/-- A rule by itself: it has a class and one beginning, whose pattern is accepted, closes an
enclosing mode only if there is one, and has the attributes of a mode exactly if it opens one. -/
structure RuleAttributes.WellFormed (a : RuleAttributes) (top opensMode : Bool) : Prop where
  cls : a.cls ≠ ""
  start : ∃ source, a.BeginsWith source ∧ AcceptedThere source
  parent : top = true → a.endsParent = false
  mode : opensMode = true → a.ProperMode
  withoutMode : opensMode = false → a.WithoutMode

private theorem exists_ruleSource_iff {a : RuleAttributes} {source : String} :
    (∃ literal, ruleSource a = .ok (source, literal)) ↔ a.BeginsWith source := by
  constructor
  · rintro ⟨literal, h⟩
    unfold ruleSource at h
    split at h
    · next hp hl hk =>
      cases h
      exact .pattern (by simpa using hp) (by simpa using hl) hk
    · next hp hl hk =>
      cases h
      exact .literal (by simpa using hp) (by simpa using hl) hk
    · next words hp hl hk =>
      split at h
      · cases h
      · next hwords =>
        cases h
        exact .keywords (by simpa using hp) (by simpa using hl) hk
          (wordsFlaw?_eq_none_iff.mp hwords)
    · cases h
  · intro h
    cases h with
    | pattern hp hl hk => exact ⟨false, by simp [ruleSource, bne_iff_ne.mpr hp, hl, hk]⟩
    | literal hp hl hk => exact ⟨true, by simp [ruleSource, hp, bne_iff_ne.mpr hl, hk]⟩
    | keywords hp hl hk hwords =>
      exact ⟨true, by simp [ruleSource, hp, hl, hk, wordsFlaw?_eq_none_iff.mpr hwords]⟩

private theorem compileAction_checks_withoutMode (grammar path : String) (a : RuleAttributes) :
    Checks (compileAction grammar path false a) a.WithoutMode (IsIn grammar path) := by
  unfold compileAction
  simp only [Bool.not_false, ite_true]
  split
  · next h =>
    refine .of_error (fun hnone ↦ ?_) ⟨rfl, .inl rfl⟩
    simp [RuleAttributes.hasModeAttributes, hnone.excludeEnd, hnone.returnEnd,
      hnone.noInherit, hnone.useCategories, hnone.absorbUnmatched, hnone.illegal] at h
  · next h =>
    simp only [RuleAttributes.hasModeAttributes, Bool.or_eq_true, not_or, Bool.not_eq_true,
      bne_eq_false_iff_eq] at h
    obtain ⟨⟨⟨⟨⟨hexclude, hreturn⟩, hinherit⟩, hcategories⟩, habsorb⟩, hillegal⟩ := h
    exact .of_ok ⟨hexclude, hreturn, hinherit, hcategories, habsorb, hillegal⟩

private theorem compileAction_checks_mode (grammar path : String) (a : RuleAttributes) :
    Checks (compileAction grammar path true a) a.ProperMode (IsIn grammar path) := by
  have hends : (a.finish != "") = a.endsWithParent ↔
      ¬ (a.finish ≠ "" ↔ a.endsWithParent = false) := by
    by_cases hf : a.finish = "" <;> cases a.endsWithParent <;> simp [hf]
  unfold compileAction
  simp only [Bool.not_true, Bool.false_eq_true, ite_false]
  split
  · next h => exact .of_error (fun hmode ↦ hends.mp (eq_of_beq h) hmode.oneEnd) ⟨rfl, .inl rfl⟩
  · next h =>
    have hend : a.finish ≠ "" ↔ a.endsWithParent = false :=
      Classical.not_not.mp fun hne ↦ h (beq_iff_eq.mpr (hends.mpr hne))
    split
    · next hboth =>
      refine .of_error (fun hmode ↦ hmode.endDealtWith ?_) ⟨rfl, .inl rfl⟩
      simpa using hboth
    · next hboth =>
      have hdealt : ¬ (a.excludeEnd = true ∧ a.returnEnd = true) := by simpa using hboth
      have hfinish : Checks (compileOptional grammar (path ++ ".end") a.finish)
          (a.finish ≠ "" → AcceptedThere a.finish) (IsIn grammar path) :=
        (compileOptional_checks _ _ _).imp_error fun e he ↦ ⟨he.1, .inr (.inl he.2)⟩
      have hillegal : Checks (compileOptional grammar (path ++ ".illegal") a.illegal)
          (a.illegal ≠ "" → AcceptedThere a.illegal) (IsIn grammar path) :=
        (compileOptional_checks _ _ _).imp_error fun e he ↦ ⟨he.1, .inr (.inr he.2)⟩
      refine (hfinish.bind fun _ ↦ hillegal.bind fun _ ↦ .of_ok trivial).congr ?_
      constructor
      · rintro ⟨hf, hi, -⟩
        exact ⟨hend, hdealt, hf, hi⟩
      · intro hmode
        exact ⟨hmode.finish, hmode.illegal, trivial⟩

/-- What a rule does is compiled exactly if it has the attributes of a mode where it opens one. -/
theorem compileAction_checks (grammar path : String) (opensMode : Bool) (a : RuleAttributes) :
    Checks (compileAction grammar path opensMode a)
      ((opensMode = true → a.ProperMode) ∧ (opensMode = false → a.WithoutMode))
      (IsIn grammar path) := by
  cases opensMode with
  | true => exact (compileAction_checks_mode grammar path a).congr (by simp)
  | false => exact (compileAction_checks_withoutMode grammar path a).congr (by simp)

private theorem RuleAttributes.BeginsWith.unique {a : RuleAttributes} {source source' : String}
    (h : a.BeginsWith source) (h' : a.BeginsWith source') : source = source' := by
  obtain ⟨literal, hsource⟩ := exists_ruleSource_iff.mpr h
  obtain ⟨literal', hsource'⟩ := exists_ruleSource_iff.mpr h'
  rw [hsource] at hsource'
  cases hsource'
  rfl

/-- A rule is compiled, apart from the rules it contains, exactly if it is well formed by
itself. -/
theorem compileHead_checks (grammar : String) (top : Bool) (path : String) (id : Nat)
    (opensMode : Bool) (a : RuleAttributes) :
    Checks (compileHead grammar top path id opensMode a) (a.WellFormed top opensMode)
      (IsIn grammar path) := by
  unfold compileHead
  split
  · next h => exact .of_error (fun hwf ↦ hwf.cls (eq_of_beq h)) ⟨rfl, .inl rfl⟩
  · next h =>
    have hcls : a.cls ≠ "" := fun he ↦ h (beq_iff_eq.mpr he)
    split
    · next flaw hflaw =>
      refine .of_error (fun hwf ↦ ?_) ⟨rfl, .inl rfl⟩
      obtain ⟨source, hbegins, -⟩ := hwf.start
      obtain ⟨literal, hsource⟩ := exists_ruleSource_iff.mpr hbegins
      rw [hflaw] at hsource
      cases hsource
    · next source literal hsource =>
      have hbegins := exists_ruleSource_iff.mp ⟨literal, hsource⟩
      have hstart (hwf : a.WellFormed top opensMode) : AcceptedThere source := by
        obtain ⟨source', hbegins', haccepted⟩ := hwf.start
        exact hbegins.unique hbegins' ▸ haccepted
      have hpattern : Checks (compileAnchored grammar path source) (AcceptedThere source)
          (IsIn grammar path) :=
        (compileAnchored_checks _ _ _).imp_error fun e he ↦ ⟨he.1, .inl he.2⟩
      by_cases hparent : (top && a.endsParent) = true
      · refine (hpattern.bind (D := False) fun _ ↦ ?_).congr ?_
        · rw [if_pos hparent]
          exact .of_error not_false ⟨rfl, .inl rfl⟩
        · simp only [and_false, false_iff]
          intro hwf
          rw [Bool.and_eq_true] at hparent
          rw [hwf.parent hparent.1] at hparent
          cases hparent.2
      · have htop : top = true → a.endsParent = false := by
          intro ht
          simpa [ht] using hparent
        refine (hpattern.bind (D := ((opensMode = true → a.ProperMode) ∧
          (opensMode = false → a.WithoutMode)) ∧ True) fun _ ↦ ?_).congr ?_
        · rw [if_neg hparent]
          exact (compileAction_checks grammar path opensMode a).bind fun _ ↦ .of_ok trivial
        · constructor
          · rintro ⟨haccepted, ⟨hmode, hnone⟩, -⟩
            exact ⟨hcls, ⟨source, hbegins, haccepted⟩, htop, hmode, hnone⟩
          · intro hwf
            exact ⟨hstart hwf, ⟨hwf.mode, hwf.withoutMode⟩, trivial⟩

/-! ### Rules in the order of the grammar -/

/-- A rule at its place in a grammar. -/
structure PlacedRule where
  path : String
  /-- The rule stands at the top level. -/
  top : Bool
  rule : Rule

/-- The rule at a place is well formed by itself. -/
def PlacedRule.WellFormed (p : PlacedRule) : Prop :=
  p.rule.attributes.WellFormed p.top p.rule.opensMode

mutual

/-- A rule and the rules inside it at their places, in the order of the grammar. -/
def placesOfRule (top : Bool) (path : String) : Rule → List PlacedRule
  | .mk a contains =>
    ⟨path, top, .mk a contains⟩ :: placesOfContained (path ++ ".contains") contains

/-- The rules a rule contains at their places, in the order of the grammar. -/
def placesOfContained (path : String) : Option (List Rule) → List PlacedRule
  | none => []
  | some rules => placesOfRules false path 0 rules

/-- The rules of a list, the first of which has the given index, and all rules inside them at
their places, in the order of the grammar. -/
def placesOfRules (top : Bool) (path : String) (index : Nat) : List Rule → List PlacedRule
  | [] => []
  | r :: rs =>
    placesOfRule top (path ++ "[" ++ toString index ++ "]") r ++
      placesOfRules top path (index + 1) rs

end

/-- A flaw is that of the first rule that is not well formed. -/
def FirstFlaw (grammar : String) (places : List PlacedRule) (e : InvalidGrammar) : Prop :=
  ∃ before p after, places = before ++ p :: after ∧ (∀ q ∈ before, q.WellFormed) ∧
    ¬ p.WellFormed ∧ e.IsIn grammar p.path

/-- Compiling rules checks each of them, in the order of the grammar. -/
def ChecksInOrder {α : Type} (x : Except InvalidGrammar α) (grammar : String)
    (places : List PlacedRule) : Prop :=
  Yields x (FirstFlaw grammar places) (fun _ ↦ ∀ p ∈ places, p.WellFormed)

namespace ChecksInOrder

variable {α β : Type} {x : Except InvalidGrammar α} {grammar : String}
  {places more : List PlacedRule}

private theorem bind {f : α → Except InvalidGrammar β} (h : ChecksInOrder x grammar places)
    (hf : ∀ a, ChecksInOrder (f a) grammar more) :
    ChecksInOrder (x >>= f) grammar (places ++ more) := by
  have happend {q : PlacedRule} {before : List PlacedRule} (hplaces : ∀ p ∈ places, p.WellFormed)
      (hbefore : ∀ p ∈ before, p.WellFormed) (hq : q ∈ places ++ before) : q.WellFormed := by
    rcases List.mem_append.mp hq with hq | hq
    · exact hplaces q hq
    · exact hbefore q hq
  have hlater {e : InvalidGrammar} (he : FirstFlaw grammar places e) :
      FirstFlaw grammar (places ++ more) e := by
    obtain ⟨before, p, after, rfl, hbefore, hp, he⟩ := he
    exact ⟨before, p, after ++ more, by simp, hbefore, hp, he⟩
  refine Yields.bind (Yields.imp_error h fun e ↦ hlater) fun a hplaces ↦ ?_
  refine Yields.imp_error (Yields.imp (hf a) fun b hmore q ↦ happend hplaces hmore) ?_
  rintro e ⟨before, p, after, rfl, hbefore, hp, he⟩
  exact ⟨places ++ before, p, after, by simp, fun q ↦ happend hplaces hbefore, hp, he⟩

private theorem of_ok {a : α} : ChecksInOrder (.ok a) grammar [] :=
  fun _ hp ↦ absurd hp List.not_mem_nil

private theorem of_checks {p : PlacedRule} (h : Checks x p.WellFormed (IsIn grammar p.path)) :
    ChecksInOrder x grammar [p] := by
  refine Yields.imp (Yields.imp_error h fun e he ↦ ?_) fun a hp q hq ↦ ?_
  · exact ⟨[], p, [], rfl, fun q hq ↦ absurd hq List.not_mem_nil, he.1, he.2⟩
  · rwa [List.mem_singleton.mp hq]

private theorem bind_pure {f : α → β} (h : ChecksInOrder x grammar places) :
    ChecksInOrder (x >>= fun a ↦ .ok (f a)) grammar places := by
  simpa using h.bind (fun a ↦ of_ok (a := f a))

end ChecksInOrder

mutual

private theorem compileRule_checks (grammar : String) (top : Bool) (path : String) (next : Nat) :
    (r : Rule) → ChecksInOrder (compileRule grammar top path next r) grammar
      (placesOfRule top path r)
  | .mk a contains => by
    have hhead : ChecksInOrder (compileHead grammar top path next (Rule.mk a contains).opensMode a)
        grammar [⟨path, top, .mk a contains⟩] :=
      .of_checks (compileHead_checks _ _ _ _ _ _)
    unfold compileRule placesOfRule
    exact hhead.bind fun head ↦
      (compileContained_checks grammar (path ++ ".contains") (next + 1) contains).bind_pure

private theorem compileContained_checks (grammar path : String) (next : Nat) :
    (rs : Option (List Rule)) → ChecksInOrder (compileContained grammar path next rs) grammar
      (placesOfContained path rs)
  | none => .of_ok
  | some rs => compileRules_checks grammar false path 0 next rs

/-- Rules are compiled exactly if all of them are well formed; otherwise the flaw of the first
that is not is reported. -/
theorem compileRules_checks (grammar : String) (top : Bool) (path : String) (index next : Nat) :
    (rs : List Rule) → ChecksInOrder (compileRules grammar top path index next rs) grammar
      (placesOfRules top path index rs)
  | [] => .of_ok
  | r :: rs => by
    unfold compileRules placesOfRules
    exact (compileRule_checks grammar top (path ++ "[" ++ toString index ++ "]") next r).bind
      fun _ ↦ (compileRules_checks grammar top path (index + 1) _ rs).bind_pure

end

/-! ### Grammars -/

namespace Grammar

/-- The pattern of identifiers, which a grammar need not name. -/
def effectiveNamePattern (g : Grammar) : String :=
  if g.namePattern == "" then defaultNamePattern else g.namePattern

/-- All rules of a grammar at their places, in the order of the grammar. -/
def places (g : Grammar) : List PlacedRule := placesOfRules true "rules" 0 g.rules

/-- A grammar apart from its rules: it has a name, its categories are well formed and of distinct
classes, and the patterns of identifiers and of text no input may start with are accepted. -/
structure WellFormedHead (g : Grammar) : Prop where
  name : g.name ≠ ""
  categories : ∀ c ∈ g.categories, c.WellFormed
  distinct : (g.categories.map (·.cls)).Nodup
  namePattern : AcceptedThere g.effectiveNamePattern
  wholeName : Accepted ("\\A(?:" ++ g.effectiveNamePattern ++ ")\\z")
  illegal : g.illegal ≠ "" → AcceptedThere g.illegal

/-- No two rules that may apply together contradict each other. -/
def Unambiguous (g : Grammar) : Prop :=
  ∀ rules next, compileRules g.name true "rules" 0 1 g.rules = .ok (rules, next) →
    findContradiction rules = none

end Grammar

private theorem compileBody_yields (g : Grammar) (categories : List CompiledCategory)
    (namePattern wholeName : Pattern) (illegal : Option Pattern) :
    Yields (do
        let (rules, _) ← compileRules g.name true "rules" 0 1 g.rules
        checkContradictions g.name rules
        return (⟨g.name, g.aliases, g.filetypes, categories, namePattern, wholeName,
          rootSpec illegal, rules⟩ : CompiledGrammar))
      (fun e ↦ FirstFlaw g.name g.places e ∨ (∀ p ∈ g.places, p.WellFormed) ∧ ¬ g.Unambiguous)
      (fun _ ↦ (∀ p ∈ g.places, p.WellFormed) ∧ g.Unambiguous) := by
  have hrules := compileRules_checks g.name true "rules" 0 1 g.rules
  cases hcompiled : compileRules g.name true "rules" 0 1 g.rules with
  | error e => exact .inl (Yields.error hrules hcompiled)
  | ok compiled =>
    obtain ⟨rules, next⟩ := compiled
    have hall : ∀ p ∈ g.places, p.WellFormed := Yields.ok hrules hcompiled
    have hunambiguous : g.Unambiguous ↔ findContradiction rules = none := by
      unfold Grammar.Unambiguous
      rw [hcompiled]
      constructor
      · intro h
        exact h rules next rfl
      · rintro h _ _ ⟨⟩
        exact h
    cases hfound : findContradiction rules with
    | none =>
      have hchecked : checkContradictions g.name rules = .ok () := by
        simp [checkContradictions, hfound]
      simp only [bind, Except.bind, hchecked]
      exact ⟨hall, hunambiguous.mpr hfound⟩
    | some c =>
      have hchecked : ∃ e, checkContradictions g.name rules = .error e := by
        simp [checkContradictions, hfound]
      obtain ⟨e, hchecked⟩ := hchecked
      simp only [bind, Except.bind, hchecked]
      refine .inr ⟨hall, fun h ↦ ?_⟩
      rw [hunambiguous.mp h] at hfound
      cases hfound

private theorem compile_yields (g : Grammar) :
    Yields (compile g)
      (fun e ↦ ¬ g.WellFormedHead ∨ FirstFlaw g.name g.places e ∨
        (∀ p ∈ g.places, p.WellFormed) ∧ ¬ g.Unambiguous)
      (fun _ ↦ g.WellFormedHead ∧ (∀ p ∈ g.places, p.WellFormed) ∧ g.Unambiguous) := by
  unfold compile
  split
  · next h => exact .inl fun hhead ↦ hhead.name (eq_of_beq h)
  · next h =>
    have hname : g.name ≠ "" := fun he ↦ h (beq_iff_eq.mpr he)
    refine Yields.bind (Yields.imp_error (compileCategories_checks g.name 0 [] g.categories)
      fun e he ↦ .inl fun hhead ↦ he.1 ?_) ?_
    · exact ⟨hhead.categories, hhead.distinct, fun _ _ ↦ List.not_mem_nil⟩
    rintro categories ⟨hcategories, hdistinct, -⟩
    refine Yields.bind (Yields.imp_error (compileAnchored_checks g.name "namePattern"
      g.effectiveNamePattern) fun e he ↦ .inl fun hhead ↦ he.1 hhead.namePattern) ?_
    intro namePattern hnamePattern
    refine Yields.bind (Yields.imp_error (compilePattern_checks g.name "namePattern"
      ("\\A(?:" ++ g.effectiveNamePattern ++ ")\\z"))
      fun e he ↦ .inl fun hhead ↦ he.1 hhead.wholeName) ?_
    intro wholeName hwholeName
    refine Yields.bind (Yields.imp_error (compileOptional_checks g.name "illegal" g.illegal)
      fun e he ↦ .inl fun hhead ↦ he.1 hhead.illegal) ?_
    intro illegal hillegal
    exact Yields.imp (Yields.imp_error (compileBody_yields g categories namePattern wholeName
      illegal) fun e he ↦ .inr he) fun _ hbody ↦
        ⟨⟨hname, hcategories, hdistinct, hnamePattern, hwholeName, hillegal⟩, hbody⟩

/-- Exactly the well-formed grammars are compiled: those that are well formed apart from their
rules, whose rules are all well formed at their places, and that are unambiguous. If only the rules
are at fault, then the flaw that is reported is that of the first of them that is not well
formed. -/
theorem compile_accepts_exactly_wellFormed (g : Grammar) :
    ((∃ cg, compile g = .ok cg) ↔
      g.WellFormedHead ∧ (∀ p ∈ g.places, p.WellFormed) ∧ g.Unambiguous) ∧
    (g.WellFormedHead → ¬ (∀ p ∈ g.places, p.WellFormed) →
      ∃ e, compile g = .error e ∧ FirstFlaw g.name g.places e) := by
  have hyields := compile_yields g
  cases hcompiled : compile g with
  | ok cg =>
    have hwf := Yields.ok hyields hcompiled
    refine ⟨⟨fun _ ↦ hwf, fun _ ↦ ⟨cg, rfl⟩⟩, fun _ hrules ↦ absurd hwf.2.1 hrules⟩
  | error e =>
    have hflaw := Yields.error hyields hcompiled
    constructor
    · simp only [reduceCtorEq, exists_false, false_iff]
      rintro ⟨hhead, hrules, hunambiguous⟩
      rcases hflaw with hno | ⟨before, p, after, hplaces, -, hp, -⟩ | ⟨-, hno⟩
      · exact hno hhead
      · exact hp (hrules p (by rw [hplaces]; exact List.mem_append_right _ List.mem_cons_self))
      · exact hno hunambiguous
    · intro hhead hrules
      rcases hflaw with hno | hfirst | ⟨hall, -⟩
      · exact absurd hhead hno
      · exact ⟨e, rfl, hfirst⟩
      · exact absurd hall hrules

end CodeViewer
