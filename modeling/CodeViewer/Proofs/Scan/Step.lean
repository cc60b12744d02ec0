import CodeViewer.Proofs.Scan.Search

/-!
# What a step can do

A step either closes modes, or consumes text and may close the innermost mode, or consumes text
and enters the mode of a rule; otherwise it fails for one of few reasons. Everything that is
preserved by a scan is derived from this one description.
-/

namespace CodeViewer

open Text (Source)

namespace Scan

/-- What a step from a state of a scan can come to, and the state it leads to. -/
inductive Change (g : CompiledGrammar) (src : Source) (s : ScanState) :
    Outcome → ScanState → Prop where
  /-- Modes are closed and nothing is consumed. -/
  | close (count : Nat) : 0 < count → count ≤ s.stack.depth →
      Change g src s .silent ⟨s.stack.close count, s.pos⟩
  /-- Text is consumed; modes may be closed by it. -/
  | consume (count : Nat) {cls : Class} {stop : Nat} : s.pos < stop → stop ≤ src.size →
      count ≤ s.stack.depth →
      Change g src s (.emitted (token src cls s.pos stop)) ⟨s.stack.close count, stop⟩
  /-- Text is consumed that opens the mode of a rule. -/
  | enter {r : CompiledRule} {stop : Nat} : r ∈ s.stack.top.visible → r.opensMode = true →
      s.stack.depth < s.stack.limit → s.pos < stop → stop ≤ src.size →
      Change g src s (.emitted (token src r.head.beginClass s.pos stop)) ⟨s.stack.enter r, stop⟩
  /-- A search breaks down or finds a match that leaves the text. -/
  | search {e : ScanError} {s' : ScanState} : g.SearchError src s.pos e →
      Change g src s (.failed e) s'
  /-- The mode of a rule would exceed the limit. -/
  | tooDeep {r : CompiledRule} {stop : Nat} : r ∈ s.stack.top.visible → r.opensMode = true →
      s.stack.limit ≤ s.stack.depth →
      Change g src s (.failed (.tooDeep s.stack.limit (src.offset s.pos) r.head.cls))
        ⟨s.stack, stop⟩
  /-- Illegal text stands where the mode of a rule is entered. -/
  | illegal {r : CompiledRule} {stop n : Nat} {text : String} : r ∈ s.stack.top.visible →
      r.opensMode = true → s.stack.depth < s.stack.limit → s.pos < stop → stop ≤ src.size →
      optionalAt? src r.modeSpec.illegal stop = .ok (some n) →
      excerpt src stop (stop + n) = .ok text →
      Change g src s (.failed (.illegalEntry r.modeSpec.cls (src.offset stop) text))
        ⟨s.stack.enter r, stop⟩
  /-- The only open mode takes the top level with it. -/
  | endsTopLevel {m : Mode} {s' : ScanState} : s.stack.opened = [m] → m.spec.endsParent = true →
      Change g src s (.failed .closedTopLevel) s'
  /-- A rule of the top level closes its mode. -/
  | closesTopLevel {r : CompiledRule} {s' : ScanState} : s.stack.depth = 0 →
      r ∈ s.stack.top.visible → r.endsParent = true →
      Change g src s (.failed .closedTopLevel) s'

variable {g : CompiledGrammar} {src : Source} {s : ScanState}

/-! ### The parts of a step -/

private theorem emit_change (count : Nat) {p : Pattern} {n : Nat} {cls : Class}
    (hp : p ∈ g.patterns)
    (hpos : s.pos ≤ src.size) (hn : p.matchLength? src.chars s.pos = .ok (some n)) (h0 : 0 < n)
    (hcount : count ≤ s.stack.depth) :
    Change g src s (emit src cls s.pos (s.pos + n)) ⟨s.stack.close count, s.pos + n⟩ := by
  unfold emit
  split
  · next hlt => exact .search (.overrun hp (Nat.le_refl _) hpos hn hlt)
  · next hge => exact .consume count (by omega) (by omega) hcount

private theorem closeMode_change {m : Mode} {parents : List Mode} {n : Nat}
    (hm : m.BelongsTo g) (ho : s.stack.opened = m :: parents) (hpos : s.pos ≤ src.size)
    (hn : optionalAt? src m.spec.finish s.pos = .ok (some n)) :
    Change g src s (closeMode src s m n).1 (closeMode src s m n).2 := by
  have hdepth : s.stack.depth = parents.length + 1 := by simp [ModeStack.depth, ho]
  obtain ⟨p, hp, hmatch⟩ := (finish_yields hm hpos).ok hn n rfl
  -- What is left to do once the modes to close are known.
  have hclosed (count : Nat) (h0 : 0 < count) (hcount : count ≤ s.stack.depth)
      (r : Outcome × ScanState) (hr : r = if n = 0 || m.spec.returnEnd then
          (.silent, { s with stack := s.stack.close count })
        else (emit src (if m.spec.excludeEnd then Class.punctuation else m.spec.cls) s.pos
          (s.pos + n), ⟨s.stack.close count, s.pos + n⟩)) :
      Change g src s r.1 r.2 := by
    subst hr
    split
    · exact .close count h0 hcount
    · next hkept =>
      simp only [Bool.or_eq_true, decide_eq_true_eq, not_or] at hkept
      exact emit_change count hp hpos hmatch (Nat.pos_of_ne_zero hkept.1) hcount
  have hpop : s.stack.pop = .ok (s.stack.close 1) :=
    ModeStack.pop_eq_ok.mpr ⟨by omega, rfl⟩
  unfold closeMode
  rw [hpop]
  cases hends : m.spec.endsParent with
  | false => exact hclosed 1 Nat.one_pos (by omega) _ rfl
  | true =>
    simp only [ite_true]
    cases hagain : (s.stack.close 1).pop with
    | error e =>
      obtain ⟨hzero, rfl⟩ := ModeStack.pop_eq_error.mp hagain
      have hnil : parents = [] := by
        rw [ModeStack.depth_close] at hzero
        exact List.eq_nil_of_length_eq_zero (by omega)
      exact .endsTopLevel (hnil ▸ ho) hends
    | ok stack =>
      obtain ⟨hpositive, rfl⟩ := ModeStack.pop_eq_ok.mp hagain
      rw [ModeStack.depth_close] at hpositive
      rw [ModeStack.close_close]
      exact hclosed 2 Nat.two_pos (by omega) _ rfl

private theorem enter_change {r : CompiledRule} {n : Nat} (hs : s.stack.BelongsTo g)
    (hpos : s.pos ≤ src.size) (hr : r ∈ s.stack.top.visible) (hopens : r.opensMode = true)
    {p : Pattern} (hp : p ∈ g.patterns)
    (hn : p.matchLength? src.chars s.pos = .ok (some n)) (h0 : 0 < n) :
    Change g src s (enter src s r (s.pos + n)).1 (enter src s r (s.pos + n)).2 := by
  unfold enter
  cases hpush : s.stack.push r (src.offset s.pos) with
  | error e =>
    obtain ⟨hlimit, rfl⟩ := ModeStack.push_eq_error.mp hpush
    exact .tooDeep hr hopens hlimit
  | ok stack =>
    obtain ⟨hlimit, rfl⟩ := ModeStack.push_eq_ok.mp hpush
    simp only
    split
    · next hlt => exact .search (.overrun hp (Nat.le_refl _) hpos hn hlt)
    · next hge =>
      have hstop : s.pos + n ≤ src.size := Nat.not_lt.mp hge
      have hcheck := checkIllegal_yields (hs.enter hr).top hstop
      split
      · next e he =>
        rcases hcheck.error he with hsearch | ⟨k, text, hk, htext, rfl⟩
        · exact .search (hsearch.mono (Nat.le_add_right s.pos n))
        · rw [ModeStack.top_enter, ModeStack.spec_inner] at hk ⊢
          exact .illegal hr hopens hlimit (by omega) hstop hk htext
      · rw [emit, if_neg hge]
        exact .enter hr hopens hlimit (by omega) hstop

private theorem take_change {c : Candidate} (hs : s.stack.BelongsTo g)
    (hpos : s.pos ≤ src.size) (hc : c.IsMatch g src s.stack.top s.pos) :
    Change g src s (take src s c).1 (take src s c).2 := by
  obtain ⟨p, hp, hmatch⟩ := hc.found
  unfold take
  cases hrule : c.rule with
  | none => exact emit_change 0 hp hpos hmatch hc.length_pos (Nat.zero_le _)
  | some r =>
    obtain ⟨hr, -, -⟩ := hc.rule r hrule
    cases haction : r.head.action with
    | enter mode =>
      have hopens : r.opensMode = true := by simp [CompiledRule.opensMode, haction]
      simp only [haction]
      exact enter_change hs hpos hr hopens hp hmatch hc.length_pos
    | emit endsParent =>
      have hends : r.endsParent = endsParent := by
        simp [CompiledRule.endsParent, CompiledRule.modeSpec, haction]
      simp only [haction]
      cases endsParent with
      | false => exact emit_change 0 hp hpos hmatch hc.length_pos (Nat.zero_le _)
      | true =>
        simp only [ite_true]
        cases hpop : s.stack.pop with
        | error e =>
          obtain ⟨hzero, rfl⟩ := ModeStack.pop_eq_error.mp hpop
          simp only
          split
          · next hlt => exact .search (.overrun hp (Nat.le_refl _) hpos hmatch hlt)
          · exact .closesTopLevel hzero hr hends
        | ok stack =>
          obtain ⟨hpositive, rfl⟩ := ModeStack.pop_eq_ok.mp hpop
          exact emit_change 1 hp hpos hmatch hc.length_pos hpositive

private theorem unmatched_change {m : Mode} {parents : List Mode} (hm : m.BelongsTo g)
    (hparents : ∀ p ∈ parents, p.BelongsTo g) (hpos : s.pos < src.size) :
    Change g src s (unmatched g src s m parents).1 (unmatched g src s m parents).2 := by
  have hconsumed (cls : Class) (stop : Nat) (hlt : s.pos < stop) (hle : stop ≤ src.size) :
      Change g src s (emit src cls s.pos stop) { s with pos := stop } := by
    rw [emit, if_neg (Nat.not_lt.mpr hle)]
    exact .consume 0 hlt hle (Nat.zero_le _)
  unfold unmatched
  split
  · exact hconsumed _ _ (Nat.lt_succ_self _) hpos
  · have hend := absorbedEnd_yields (src.size - (s.pos + 1)) hm hparents
      (Nat.succ_le_of_lt hpos)
    split
    · next e he => exact .search ((hend.error he).mono (Nat.le_succ s.pos))
    · next stop hstop =>
      obtain ⟨hlt, hle⟩ := hend.ok hstop
      exact hconsumed _ _ hlt hle

private theorem advance_change {parents : List Mode} (hs : s.stack.BelongsTo g)
    (hparents : ∀ p ∈ parents, p.BelongsTo g) (hpos : s.pos < src.size) :
    Change g src s (advance g src s s.stack.top parents).1
      (advance g src s s.stack.top parents).2 := by
  have hcandidate := candidate?_yields hs.top (Nat.le_of_lt hpos)
  unfold advance
  split
  · next e he => exact .search (hcandidate.error he)
  · next c hc => exact take_change hs (Nat.le_of_lt hpos) (hcandidate.ok hc c rfl)
  · exact unmatched_change hs.top hparents hpos

/-! ### The step -/

/-- A step does nothing but what is described. -/
theorem step_change (hs : s.stack.BelongsTo g) (hpos : s.pos < src.size) :
    Change g src s (step g src s).1 (step g src s).2 := by
  unfold step
  split
  · next hnil =>
    have htop : s.stack.top = s.stack.root := by simp [ModeStack.top, hnil]
    rw [← htop]
    exact advance_change hs (fun p hp ↦ nomatch hp) hpos
  · next m parents ho =>
    have htop : s.stack.top = m := by simp [ModeStack.top, ho]
    have hm : m.BelongsTo g := hs.opened m (by simp [ho])
    have hparents : ∀ p ∈ parents, p.BelongsTo g := fun p hp ↦ hs.opened p (by simp [ho, hp])
    have hfinish := finish_yields hm (Nat.le_of_lt hpos)
    split
    · next e he => exact .search (hfinish.error he)
    · next n hn => exact closeMode_change hm ho (Nat.le_of_lt hpos) hn
    · split
      · next e he =>
        split at he
        · exact .search ((parentEnds_yields hparents (Nat.le_of_lt hpos)).error he)
        · cases he
      · have hclose : { s.stack with opened := parents } = s.stack.close 1 := by
          simp [ModeStack.close, ho]
        rw [hclose]
        exact .close 1 Nat.one_pos (by simp [ModeStack.depth, ho])
      · rw [← htop]
        exact advance_change hs hparents hpos

end Scan

end CodeViewer
