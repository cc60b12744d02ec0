import CodeViewer.Proofs.Scan.Progress

/-!
# Classes of tokens

Every token has a class of the grammar it comes from, or one of the three classes that the
scanner gives by itself.
-/

namespace CodeViewer

open Text (Source)

namespace CompiledGrammar

/-- The classes of a grammar: those of the top level and of the word categories, and for each
rule its own, that of the text it begins with and that of its mode. -/
def classes (g : CompiledGrammar) : List Class :=
  g.root.cls :: g.categoryClasses ++
    g.allRules.flatMap fun r ↦ [r.head.cls, r.head.beginClass, r.modeSpec.cls]

/-- The classes that tokens of a scan may have. -/
inductive Gives (g : CompiledGrammar) : Class → Prop where
  | ofGrammar {cls : Class} : cls ∈ g.classes → Gives g cls
  | identifier : Gives g Class.identifier
  | punctuation : Gives g Class.punctuation
  | unknown : Gives g Class.unknown

variable {g : CompiledGrammar}

private theorem gives_category {c : CompiledCategory} (hc : c ∈ g.categories) : g.Gives c.cls :=
  .ofGrammar (List.mem_append_left _ (List.mem_cons_of_mem _ (List.mem_map_of_mem hc)))

private theorem gives_rule {r : CompiledRule} (hr : r ∈ g.allRules) {cls : Class}
    (hcls : cls ∈ [r.head.cls, r.head.beginClass, r.modeSpec.cls]) : g.Gives cls :=
  .ofGrammar (List.mem_append_right _ (List.mem_flatMap.mpr ⟨r, hr, hcls⟩))

private theorem gives_mode {m : Mode} (hm : m.BelongsTo g) : g.Gives m.spec.cls := by
  rcases hm.spec with hroot | ⟨r, hr, hspec⟩
  · rw [hroot]
    exact .ofGrammar (List.mem_append_left _ List.mem_cons_self)
  · rw [hspec]
    exact gives_rule hr (by simp)

private theorem classify_yields_gives (lexeme : String) {hint : Class} (hhint : g.Gives hint) :
    Yields (g.classify lexeme hint) (fun _ ↦ True) g.Gives := by
  unfold classify
  split
  · exact hhint
  · split
    · next c hc => exact gives_category (List.mem_of_find?_eq_some hc)
    · refine .map ?_
      cases g.isName lexeme with
      | error e => trivial
      | ok named =>
        cases named with
        | true => exact .identifier
        | false =>
          simp only [Yields, Bool.false_eq_true, if_false]
          split
          · exact hhint
          · exact .unknown

end CompiledGrammar

namespace Scan

variable {g : CompiledGrammar} {src : Source} {maxDepth : Int} {m : Mode} {pos : Nat}
  {s s' : ScanState} {o : Option Token} {os : List (Option Token)}

/-! ### Candidates -/

/-- If there is a candidate, its class may be given. -/
def AreClassed (g : CompiledGrammar) (c? : Option Candidate) : Prop :=
  ∀ c, c? = some c → g.Gives c.cls

private theorem areClassed_none : AreClassed g none := fun _ h ↦ nomatch h

private theorem areClassed_some {c : Candidate} (hc : g.Gives c.cls) : AreClassed g (some c) := by
  intro b hb
  rw [← Option.some.inj hb]
  exact hc

private theorem better_areClassed {best : Option Candidate} {c : Candidate}
    (hb : AreClassed g best) (hc : g.Gives c.cls) : AreClassed g (better best c) := by
  unfold better
  split
  · exact areClassed_some hc
  · split
    · exact areClassed_some hc
    · exact hb

private theorem bestRule_yields_classed {rules : List CompiledRule} {patternSeen : Bool}
    {best : Option Candidate} (hrules : ∀ r ∈ rules, r ∈ g.allRules) (hb : AreClassed g best) :
    Yields (bestRule g src pos patternSeen best rules) (fun _ ↦ True) (AreClassed g) := by
  induction rules generalizing patternSeen best with
  | nil => exact hb
  | cons r rs ih =>
    have hrs : ∀ x ∈ rs, x ∈ g.allRules := fun x hx ↦ hrules x (List.mem_cons_of_mem _ hx)
    have hcls : g.Gives r.head.cls := CompiledGrammar.gives_rule (hrules r (by simp)) (by simp)
    have hcandidate : Yields (ruleCandidate? g src pos r) (fun _ ↦ True) (AreClassed g) := by
      unfold ruleCandidate?
      refine (Yields.anything _).bind fun n? _ ↦ ?_
      split
      · exact areClassed_none
      · exact areClassed_none
      · exact areClassed_some hcls
    unfold bestRule
    split
    · exact ih hrs hb
    · refine hcandidate.bind fun c? hc ↦ ?_
      cases c? with
      | none => exact ih hrs hb
      | some c => exact ih hrs (better_areClassed hb (hc c rfl))

private theorem bestCategory_yields_classed {categories : List CompiledCategory} {index : Nat}
    {best : Option Candidate} (hcategories : ∀ c ∈ categories, c ∈ g.categories)
    (hb : AreClassed g best) :
    Yields (bestCategory src pos index best categories) (fun _ ↦ True) (AreClassed g) := by
  induction categories generalizing index best with
  | nil => exact hb
  | cons x xs ih =>
    have hxs : ∀ c ∈ xs, c ∈ g.categories :=
      fun c hc ↦ hcategories c (List.mem_cons_of_mem _ hc)
    have hx := CompiledGrammar.gives_category (hcategories x (by simp))
    unfold bestCategory
    refine (Yields.anything _).bind fun n? _ ↦ ?_
    split
    · exact ih hxs hb
    · exact ih hxs hb
    · exact ih hxs (better_areClassed hb hx)

private theorem bestName_yields_classed {best : Option Candidate} (hb : AreClassed g best) :
    Yields (bestName g src pos best) (fun _ ↦ True) (AreClassed g) := by
  unfold bestName
  refine (Yields.anything _).bind fun n? _ ↦ ?_
  cases n? with
  | none => exact hb
  | some n =>
    intro c hc
    split at hc
    · cases hc
      exact .identifier
    · exact hb c hc

private theorem reclassify_yields_classed {c : Candidate} (hc : g.Gives c.cls) :
    Yields (reclassify g src pos c) (fun _ ↦ True) (fun c ↦ g.Gives c.cls) := by
  unfold reclassify
  split
  · exact hc
  · refine (Yields.anything _).bind fun text _ ↦ ?_
    exact (CompiledGrammar.classify_yields_gives text hc).bind fun cls hcls ↦ hcls

/-- What is chosen has a class that may be given. -/
theorem candidate?_yields_classed (hm : m.BelongsTo g) :
    Yields (candidate? g src m pos) (fun _ ↦ True) (AreClassed g) := by
  unfold candidate?
  refine (bestRule_yields_classed hm.visible areClassed_none).bind fun best hbest ↦ ?_
  split
  · exact hbest
  · refine (bestCategory_yields_classed (fun c hc ↦ hc) hbest).bind fun best' hbest' ↦ ?_
    refine (bestName_yields_classed hbest').bind fun c? hc ↦ ?_
    cases c? with
    | none => exact areClassed_none
    | some c => exact (reclassify_yields_classed (hc c rfl)).bind fun c' hc' ↦ areClassed_some hc'

/-! ### Steps -/

/-- If a token is emitted, its class may be given. -/
def EmitsClassed (g : CompiledGrammar) : Outcome → Prop
  | .emitted t => g.Gives t.cls
  | _ => True

private theorem emit_classed {cls : Class} (hcls : g.Gives cls) (start stop : Nat) :
    EmitsClassed g (emit src cls start stop) := by
  unfold emit
  split
  · trivial
  · exact hcls

private theorem closeMode_classed (hm : m.BelongsTo g) (n : Nat) :
    EmitsClassed g (closeMode src s m n).1 := by
  unfold closeMode
  split
  · trivial
  · split
    · trivial
    · split
      · trivial
      · refine emit_classed ?_ _ _
        split
        · exact .punctuation
        · exact CompiledGrammar.gives_mode hm

private theorem take_classed {c : Candidate} (hcls : g.Gives c.cls)
    (hrule : ∀ r, c.rule = some r → r ∈ g.allRules) : EmitsClassed g (take src s c).1 := by
  unfold take
  cases hr : c.rule with
  | none => exact emit_classed hcls _ _
  | some r =>
    have hbegin : g.Gives r.head.beginClass := CompiledGrammar.gives_rule (hrule r hr) (by simp)
    simp only
    split
    · unfold enter
      split
      · trivial
      · split
        · trivial
        · split
          · trivial
          · exact emit_classed hbegin _ _
    · split
      · trivial
      · exact emit_classed hcls _ _

private theorem unmatched_classed {parents : List Mode} (hm : m.BelongsTo g) :
    EmitsClassed g (unmatched g src s m parents).1 := by
  unfold unmatched
  split
  · exact emit_classed .unknown _ _
  · split
    · trivial
    · exact emit_classed (CompiledGrammar.gives_mode hm) _ _

private theorem advance_classed {parents : List Mode} (hm : m.BelongsTo g)
    (hpos : s.pos ≤ src.size) : EmitsClassed g (advance g src s m parents).1 := by
  unfold advance
  split
  · trivial
  · next c hc =>
    have hmatch := (candidate?_yields hm hpos).ok hc c rfl
    refine take_classed ((candidate?_yields_classed hm).ok hc c rfl) fun r hr ↦ ?_
    exact hm.visible r (hmatch.rule r hr).1
  · exact unmatched_classed hm

/-- The class of the token a step emits may be given. -/
theorem step_classed (hs : s.stack.BelongsTo g) (hpos : s.pos < src.size) :
    EmitsClassed g (step g src s).1 := by
  unfold step
  split
  · next hnil =>
    have htop : s.stack.root = s.stack.top := by simp [ModeStack.top, hnil]
    rw [htop]
    exact advance_classed hs.top (Nat.le_of_lt hpos)
  · next m parents ho =>
    have hm : m.BelongsTo g := hs.opened m (by simp [ho])
    split
    · trivial
    · exact closeMode_classed hm _
    · split
      · trivial
      · trivial
      · exact advance_classed hm (Nat.le_of_lt hpos)

/-- The tokens of a run have classes that may be given. -/
theorem Steps.classed (h : Steps g src s os s') (hs : s.stack.BelongsTo g) :
    ∀ t ∈ os.reduceOption, g.Gives t.cls := by
  induction h with
  | nil s => exact fun t ht ↦ absurd ht List.not_mem_nil
  | @cons s s' s'' o os hm _ ih =>
    have hrest := ih (hm.belongsTo hs)
    have hfirst := step_classed hs hm.1
    rw [hm.2] at hfirst
    cases o with
    | none =>
      rw [List.reduceOption_cons_of_none]
      exact hrest
    | some t =>
      rw [List.reduceOption_cons_of_some]
      exact List.forall_mem_cons.mpr ⟨hfirst, hrest⟩

end Scan

/-- The tokens of a whole scan have classes of the grammar or of the scanner. -/
theorem Scanner.scan_classed (g : CompiledGrammar) (maxDepth : Int) (text : ByteArray) :
    ∀ t ∈ (scan g maxDepth text).1.toList, g.Gives t.cls := by
  obtain ⟨s, ⟨-, -, os, st, hsteps, hemitted, -⟩, -⟩ := exists_follows_scan g maxDepth text
  rw [← hemitted]
  exact hsteps.classed (Scan.start_belongsTo g maxDepth)

end CodeViewer
