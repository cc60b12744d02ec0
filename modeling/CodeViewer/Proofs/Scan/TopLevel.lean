import CodeViewer.Proofs.Scan.Run

/-!
# The top level is never closed

A rule that closes an enclosing mode stands inside a mode and never at the top level. Wherever
such a rule applies, a mode is open for it to close, and its own mode is opened inside another.
-/

namespace CodeViewer

open Text (Source)

/-- There is always a mode to close: a rule that closes an enclosing mode applies inside a mode
only, and an open mode that takes its enclosing mode with it is the second one at least. -/
structure ModeStack.Sheltered (s : ModeStack) : Prop where
  visible : ∀ r ∈ s.top.visible, r.endsParent = true → 1 ≤ s.depth
  opened : ∀ m rest, m :: rest <:+ s.opened → m.spec.endsParent = true →
    2 ≤ (m :: rest).length

namespace ModeStack

variable {s : ModeStack} {g : CompiledGrammar}

private theorem visible_sheltered (hs : s.BelongsTo g)
    (hg : ∀ r ∈ g.rules, r.endsParent = false) :
    ∀ r ∈ s.top.visible, r.endsParent = true → 1 ≤ s.depth := by
  intro r hr hends
  cases ho : s.opened with
  | cons m rest => simp [depth, ho]
  | nil =>
    have htop : s.top.visible = g.rules := by simp [top, ho, hs.root]
    rw [htop] at hr
    rw [hg r hr] at hends
    cases hends

/-- At the start of a scan no mode is open, and no rule of the top level closes one. -/
theorem sheltered_ofGrammar (hg : ∀ r ∈ g.rules, r.endsParent = false) (maxDepth : Int) :
    (ofGrammar g maxDepth).Sheltered := by
  refine ⟨visible_sheltered (belongsTo_ofGrammar g maxDepth) hg, fun m rest h ↦ ?_⟩
  have hnil : m :: rest = [] := List.suffix_nil.mp h
  cases hnil

/-- Entering the mode of a rule that applies keeps the top level out of reach. -/
theorem Sheltered.enter (h : s.Sheltered) (hs : s.BelongsTo g)
    (hg : ∀ r ∈ g.rules, r.endsParent = false) {r : CompiledRule} (hr : r ∈ s.top.visible) :
    (s.enter r).Sheltered := by
  refine ⟨visible_sheltered (hs.enter hr) hg, fun m rest hsuffix hends ↦ ?_⟩
  rcases List.suffix_cons_iff.mp hsuffix with heq | hsuffix
  · obtain ⟨rfl, rfl⟩ := List.cons.inj heq
    rw [spec_inner] at hends
    have hdepth : 1 ≤ s.opened.length := h.visible r hr hends
    simp only [List.length_cons]
    omega
  · exact h.opened m rest hsuffix hends

/-- Closing modes keeps the top level out of reach. -/
theorem Sheltered.close (h : s.Sheltered) (hs : s.BelongsTo g)
    (hg : ∀ r ∈ g.rules, r.endsParent = false) (count : Nat) : (s.close count).Sheltered :=
  ⟨visible_sheltered (hs.close count) hg,
    fun m rest hsuffix ↦ h.opened m rest (hsuffix.trans (List.drop_suffix count s.opened))⟩

end ModeStack

/-- The number of modes that are closed where a mode ends: the mode around it is if it says so. -/
def Mode.closing (m : Mode) : Nat := if m.spec.endsParent then 2 else 1

namespace Scan

variable {g : CompiledGrammar} {src : Source} {maxDepth : Int} {s s' : ScanState}
  {o : Option Token}

/-- Where a mode ends there are as many modes as are closed. The text of its end is consumed unless
it is empty or left to the mode around. -/
theorem closeMode_eq (src : Source) {m : Mode} {parents : List Mode} (n : Nat)
    (hsh : s.stack.Sheltered) (ho : s.stack.opened = m :: parents) :
    m.closing ≤ s.stack.depth ∧
      closeMode src s m n =
        if n = 0 || m.spec.returnEnd then (.silent, ⟨s.stack.close m.closing, s.pos⟩)
        else (emit src (if m.spec.excludeEnd then Class.punctuation else m.spec.cls) s.pos
          (s.pos + n), ⟨s.stack.close m.closing, s.pos + n⟩) := by
  have hdepth : s.stack.depth = parents.length + 1 := by simp [ModeStack.depth, ho]
  have hpop : s.stack.pop = .ok (s.stack.close 1) := ModeStack.pop_eq_ok.mpr ⟨by omega, rfl⟩
  unfold closeMode Mode.closing
  rw [hpop]
  cases hends : m.spec.endsParent with
  | false => exact ⟨by simp [hdepth], rfl⟩
  | true =>
    -- The mode that takes its parent with it is the second one at least.
    have htwo : 2 ≤ s.stack.depth := by
      have hlength := hsh.opened m parents (by simp [ho]) hends
      simp only [List.length_cons] at hlength
      omega
    have hagain : (s.stack.close 1).pop = .ok (s.stack.close 2) := by
      refine ModeStack.pop_eq_ok.mpr ⟨?_, (ModeStack.close_close _ 1 1).symm⟩
      rw [ModeStack.depth_close]
      omega
    simp only [ite_true, hagain, and_true]
    exact htwo

/-- Every step keeps the top level out of reach. -/
theorem Moves.sheltered (h : Moves g src s o s') (hs : s.stack.BelongsTo g)
    (hg : ∀ r ∈ g.rules, r.endsParent = false) (hsh : s.stack.Sheltered) :
    s'.stack.Sheltered := by
  have hc := h.change hs
  cases o with
  | none =>
    cases hc with
    | close count _ _ => exact hsh.close hs hg count
  | some t =>
    cases hc with
    | consume count _ _ _ => exact hsh.close hs hg count
    | enter hr _ _ _ _ => exact hsh.enter hs hg hr

/-- The top level is out of reach in every state of a scan. -/
theorem Reaches.sheltered (h : Reaches g maxDepth src s)
    (hg : ∀ r ∈ g.rules, r.endsParent = false) : s.stack.Sheltered := by
  obtain ⟨os, hsteps⟩ := h
  have hboth : s.stack.BelongsTo g ∧ s.stack.Sheltered :=
    hsteps.preserves (P := fun s ↦ s.stack.BelongsTo g ∧ s.stack.Sheltered)
      (fun s o s' hs hm ↦ ⟨hm.belongsTo hs.1, hm.sheltered hs.1 hg hs.2⟩)
      ⟨start_belongsTo g maxDepth, ModeStack.sheltered_ofGrammar hg maxDepth⟩
  exact hboth.2

/-- As long as the top level is out of reach no step closes it. -/
theorem step_ne_closedTopLevel (hs : s.stack.BelongsTo g) (hsh : s.stack.Sheltered)
    (hpos : s.pos < src.size) : (step g src s).1 ≠ .failed .closedTopLevel := by
  intro h
  have hc := step_change hs hpos
  rw [h] at hc
  cases hc with
  | search hsearch => exact hsearch.ne_closedTopLevel rfl
  | endsTopLevel ho hends =>
    have htwo := hsh.opened _ [] (by simp [ho]) hends
    simp at htwo
  | closesTopLevel hdepth hr hends =>
    have hone := hsh.visible _ hr hends
    omega

end Scan

open Scan

/-- The top level is never closed. In every state a scan of a compiled grammar can be in, a rule
that closes its enclosing mode applies inside a mode only, and an open mode that closes its
enclosing mode is the second one at least; no step fails for want of a mode to close, and no
sequence of calls ends with that error. -/
theorem never_closes_topLevel {gr : Grammar} {g : CompiledGrammar} (hg : compile gr = .ok g)
    (maxDepth : Int) (text : ByteArray) :
    (∀ s, Reaches g maxDepth (Source.ofText text) s →
      s.stack.Sheltered ∧ (s.pos < (Source.ofText text).size →
        (step g (Source.ofText text) s).1 ≠ .failed .closedTopLevel)) ∧
    ∀ calls, ((Scanner.ofText g maxDepth text).nextEach calls).2.error? ≠
      some .closedTopLevel := by
  obtain ⟨⟨n, hrules⟩, -, -⟩ := compile_ok hg
  have htop := compileRules_top hrules
  have hstates (s : ScanState) (hs : Reaches g maxDepth (Source.ofText text) s) :
      s.stack.Sheltered ∧ (s.pos < (Source.ofText text).size →
        (step g (Source.ofText text) s).1 ≠ .failed .closedTopLevel) :=
    ⟨hs.sheltered htop, step_ne_closedTopLevel hs.belongsTo (hs.sheltered htop)⟩
  refine ⟨hstates, fun calls herror ↦ ?_⟩
  obtain ⟨os, st, hsteps, -, ⟨-, rfl, hillegal⟩ | ⟨hleft, hstep⟩⟩ :=
    (Scanner.nextEach_follows g maxDepth text calls).error herror (by simp)
  · rcases (checkIllegal_yields (start_belongsTo g maxDepth).top (Nat.zero_le _)).error
      hillegal with hsearch | ⟨n, found, -, -, he⟩
    · exact hsearch.ne_closedTopLevel rfl
    · cases he
  · exact (hstates st ⟨os, hsteps⟩).2 hleft (by rw [hstep])

/-- Blocks that take the blocks around them with them leave the top level open. -/
theorem never_closes_topLevel_nestedBlocks :
    ∃ g, compile nestedBlocks = .ok g ∧ (g.allRules.any (·.endsParent)) = true ∧
      ((Scanner.ofText g 0 "<()<;;".toUTF8).nextEach
        [false, false, false, false, false, false]).2.error? ≠ some .closedTopLevel := by
  obtain ⟨g, hg, hends⟩ := exists_compiled nestedBlocks
    (fun g ↦ g.allRules.any (·.endsParent)) (by decide +kernel)
  obtain ⟨-, hcalls⟩ := never_closes_topLevel hg 0 "<()<;;".toUTF8
  exact ⟨g, hg, hends, hcalls _⟩

end CodeViewer
