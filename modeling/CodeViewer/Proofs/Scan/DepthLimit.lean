import CodeViewer.Proofs.Scan.Progress

/-!
# The nesting limit only cuts a scan short

A step looks at the limit only where it enters the mode of a rule. Scans of one text under two
limits therefore make the same steps up to the first mode that the lower limit refuses, and a
text of no more characters than the limit has no such mode.
-/

namespace CodeViewer

open Text (Source)

/-- Whether a mode was refused for nesting too deep. -/
def ScanError.isTooDeep : ScanError → Bool
  | .tooDeep _ _ _ => true
  | _ => false

/-! ### Stacks under another limit -/

namespace ModeStack

/-- The same modes under another limit. -/
def withLimit (s : ModeStack) (limit : Nat) : ModeStack := { s with limit := limit }

variable {s s' : ModeStack} {limit : Nat}

@[simp] private theorem opened_withLimit : (s.withLimit limit).opened = s.opened := rfl

@[simp] private theorem root_withLimit : (s.withLimit limit).root = s.root := rfl

@[simp] private theorem top_withLimit : (s.withLimit limit).top = s.top := rfl

private theorem pop_withLimit : (s.withLimit limit).pop = s.pop.map (·.withLimit limit) := by
  unfold pop
  rw [opened_withLimit]
  split <;> rfl

private theorem push_withLimit (hle : s.limit ≤ limit) {r : CompiledRule} {offset : Int}
    (h : s.push r offset = .ok s') :
    (s.withLimit limit).push r offset = .ok (s'.withLimit limit) := by
  obtain ⟨hlt, rfl⟩ := push_eq_ok.mp h
  exact push_eq_ok.mpr ⟨Nat.lt_of_lt_of_le hlt hle, rfl⟩

/-- What a step makes of a stack, even if it fails: modes are closed, or one is entered that the
limit admits. -/
inductive Becomes (s : ModeStack) : ModeStack → Prop where
  | closed (count : Nat) : Becomes s (s.close count)
  | entered (r : CompiledRule) : s.depth < s.limit → Becomes s (s.enter r)

private theorem Becomes.refl (s : ModeStack) : Becomes s s := .closed 0

private theorem Becomes.of_pop (h : s.pop = .ok s') : Becomes s s' := by
  obtain ⟨-, rfl⟩ := pop_eq_ok.mp h
  exact .closed 1

private theorem Becomes.of_push {r : CompiledRule} {offset : Int} (h : s.push r offset = .ok s') :
    Becomes s s' := by
  obtain ⟨hlt, rfl⟩ := push_eq_ok.mp h
  exact .entered r hlt

private theorem Becomes.limit_eq (h : Becomes s s') : s'.limit = s.limit := by
  cases h with
  | closed count => rfl
  | entered r _ => rfl

private theorem Becomes.depth_le (h : Becomes s s') (hs : s.depth ≤ s.limit) :
    s'.depth ≤ s'.limit := by
  rw [h.limit_eq]
  cases h with
  | closed count =>
    rw [depth_close]
    omega
  | entered r hlt => exact hlt

end ModeStack

/-- The same place under another limit. -/
def ScanState.withLimit (s : ScanState) (limit : Nat) : ScanState :=
  ⟨s.stack.withLimit limit, s.pos⟩

@[simp] private theorem ScanState.stack_withLimit {s : ScanState} {limit : Nat} :
    (s.withLimit limit).stack = s.stack.withLimit limit := rfl

@[simp] private theorem ScanState.pos_withLimit {s : ScanState} {limit : Nat} :
    (s.withLimit limit).pos = s.pos := rfl

/-- Searches refuse no mode. -/
theorem CompiledGrammar.SearchError.isTooDeep_eq_false {g : CompiledGrammar} {src : Source}
    {start : Nat} {e : ScanError} (h : g.SearchError src start e) : e.isTooDeep = false := by
  cases h with
  | @pattern p pos b _ _ _ _ => cases b <;> rfl
  | name _ _ _ => rfl
  | overrun _ _ _ _ _ => rfl

namespace Scan

open ModeStack ScanState

variable {g : CompiledGrammar} {src : Source} {s : ScanState} {m : Mode} {parents : List Mode}
  {limit n : Nat}

/-! ### The stack after a step -/

private theorem closeMode_becomes : s.stack.Becomes (closeMode src s m n).2.stack := by
  unfold closeMode
  split
  · exact .refl _
  · next popped hpop =>
    have honce : s.stack.Becomes popped := .of_pop hpop
    split
    · exact honce
    · next stack hagain =>
      have hclosed : s.stack.Becomes stack := by
        split at hagain
        · obtain ⟨-, rfl⟩ := pop_eq_ok.mp hpop
          obtain ⟨-, rfl⟩ := pop_eq_ok.mp hagain
          rw [close_close]
          exact .closed _
        · cases hagain
          exact honce
      split
      · exact hclosed
      · exact hclosed

private theorem enter_becomes {r : CompiledRule} {stop : Nat} :
    s.stack.Becomes (enter src s r stop).2.stack := by
  unfold enter
  split
  · exact .refl _
  · next stack hpush =>
    have hentered : s.stack.Becomes stack := .of_push hpush
    split
    · exact hentered
    · split
      · exact hentered
      · exact hentered

private theorem take_becomes {c : Candidate} : s.stack.Becomes (take src s c).2.stack := by
  unfold take
  split
  · exact .refl _
  · split
    · exact enter_becomes
    · split
      · exact .refl _
      · next stack hstack =>
        split at hstack
        · exact .of_pop hstack
        · cases hstack
          exact .refl _

private theorem unmatched_becomes : s.stack.Becomes (unmatched g src s m parents).2.stack := by
  unfold unmatched
  split
  · exact .refl _
  · split
    · exact .refl _
    · exact .refl _

private theorem advance_becomes : s.stack.Becomes (advance g src s m parents).2.stack := by
  unfold advance
  split
  · exact .refl _
  · exact take_becomes
  · exact unmatched_becomes

/-- A step closes modes or enters one that the limit admits, even if it fails. -/
theorem step_becomes (g : CompiledGrammar) (src : Source) (s : ScanState) :
    s.stack.Becomes (step g src s).2.stack := by
  unfold step
  split
  · exact advance_becomes
  · next m parents ho =>
    split
    · exact .refl _
    · exact closeMode_becomes
    · split
      · exact .refl _
      · have hclose : { s.stack with opened := parents } = s.stack.close 1 := by
          simp [close, ho]
        rw [hclose]
        exact .closed 1
      · exact advance_becomes

/-! ### Steps under another limit -/

/-- What a step comes to under a higher limit: the same, unless the lower one has refused a
mode. -/
def Agrees (limit : Nat) (low high : Outcome × ScanState) : Prop :=
  high = (low.1, low.2.withLimit limit) ∨ ∃ e, low.1 = .failed e ∧ e.isTooDeep = true

private theorem closeMode_agrees :
    Agrees limit (closeMode src s m n) (closeMode src (s.withLimit limit) m n) := by
  left
  unfold closeMode
  rw [stack_withLimit, pop_withLimit]
  cases s.stack.pop with
  | error e => rfl
  | ok popped =>
    simp only [Except.map]
    cases m.spec.endsParent with
    | false =>
      simp only [Bool.false_eq_true, ite_false]
      split <;> rfl
    | true =>
      simp only [ite_true, pop_withLimit]
      cases popped.pop with
      | error e => rfl
      | ok stack =>
        simp only [Except.map]
        split <;> rfl

private theorem enter_agrees (hle : s.stack.limit ≤ limit) {r : CompiledRule} {stop : Nat} :
    Agrees limit (enter src s r stop) (enter src (s.withLimit limit) r stop) := by
  unfold enter
  rw [stack_withLimit, pos_withLimit]
  cases hpush : s.stack.push r (src.offset s.pos) with
  | error e =>
    obtain ⟨-, rfl⟩ := push_eq_error.mp hpush
    exact .inr ⟨_, rfl, rfl⟩
  | ok stack =>
    left
    rw [push_withLimit hle hpush]
    simp only [top_withLimit]
    split
    · rfl
    · cases checkIllegal src stack.top stop <;> rfl

private theorem take_agrees (hle : s.stack.limit ≤ limit) {c : Candidate} :
    Agrees limit (take src s c) (take src (s.withLimit limit) c) := by
  unfold take
  cases c.rule with
  | none => exact .inl rfl
  | some r =>
    simp only [stack_withLimit, pos_withLimit]
    cases r.head.action with
    | enter mode => exact enter_agrees hle
    | emit endsParent =>
      left
      cases endsParent with
      | false => rfl
      | true =>
        simp only [ite_true, pop_withLimit]
        cases s.stack.pop <;> rfl

private theorem unmatched_agrees :
    Agrees limit (unmatched g src s m parents)
      (unmatched g src (s.withLimit limit) m parents) := by
  left
  unfold unmatched
  rw [pos_withLimit]
  split
  · rfl
  · cases absorbedEnd g src m parents (src.size - (s.pos + 1)) (s.pos + 1) <;> rfl

private theorem advance_agrees (hle : s.stack.limit ≤ limit) :
    Agrees limit (advance g src s m parents) (advance g src (s.withLimit limit) m parents) := by
  unfold advance
  rw [pos_withLimit]
  split
  · exact .inl rfl
  · exact take_agrees hle
  · exact unmatched_agrees

/-- A step under a higher limit does the same, unless the lower one has refused a mode. -/
theorem step_agrees (g : CompiledGrammar) (src : Source) (hle : s.stack.limit ≤ limit) :
    Agrees limit (step g src s) (step g src (s.withLimit limit)) := by
  unfold step
  rw [stack_withLimit, pos_withLimit, opened_withLimit, root_withLimit]
  split
  · exact advance_agrees hle
  · split
    · exact .inl rfl
    · exact closeMode_agrees
    · split
      · exact .inl rfl
      · exact .inl rfl
      · exact advance_agrees hle

/-! ### The depth of a run -/

variable {maxDepth : Int} {s' : ScanState} {o : Option Token}

/-- A step that does not fail keeps to the limit, which stays as it is. -/
theorem Moves.becomes (h : Moves g src s o s') : s.stack.Becomes s'.stack := by
  have hstack := step_becomes g src s
  rwa [h.2] at hstack

/-- In every state of a scan the limit is that of its start, and is kept. -/
theorem Reaches.depth_le (h : Reaches g maxDepth src s) :
    s.stack.limit = effectiveLimit maxDepth ∧ s.stack.depth ≤ s.stack.limit := by
  obtain ⟨os, hsteps⟩ := h
  refine hsteps.preserves
    (P := fun s ↦ s.stack.limit = effectiveLimit maxDepth ∧ s.stack.depth ≤ s.stack.limit)
    (fun s o s' hs hm ↦ ?_) ⟨rfl, Nat.zero_le _⟩
  exact ⟨hm.becomes.limit_eq.trans hs.1, hm.becomes.depth_le hs.2⟩

/-- Every open mode has taken up text. -/
theorem Reaches.depth_le_pos (h : Reaches g maxDepth src s) : s.stack.depth ≤ s.pos := by
  obtain ⟨os, hsteps⟩ := h
  have hboth : s.stack.BelongsTo g ∧ s.stack.depth ≤ s.pos :=
    hsteps.preserves (P := fun s ↦ s.stack.BelongsTo g ∧ s.stack.depth ≤ s.pos)
      (fun s o s' hs hm ↦ ⟨hm.belongsTo hs.1, ?_⟩) ⟨start_belongsTo g maxDepth, Nat.zero_le _⟩
  · exact hboth.2
  · have hdepth := hs.2
    rcases hm.getsOn hs.1 with ⟨hlt, -, ⟨count, hstack⟩ | ⟨r, hstack⟩⟩ | ⟨hpos, count, -, -, hstack⟩
    · rw [hstack, depth_close]
      omega
    · rw [hstack, depth_enter]
      omega
    · rw [hstack, hpos, depth_close]
      omega

/-- A step refuses a mode only if the limit is lower than the number of characters. -/
theorem Reaches.step_isTooDeep (h : Reaches g maxDepth src s)
    (hsize : src.size ≤ effectiveLimit maxDepth) (hpos : s.pos < src.size) {e : ScanError}
    (he : step g src s = (.failed e, s')) : e.isTooDeep = false := by
  have hc := step_change h.belongsTo hpos
  rw [he] at hc
  cases hc with
  | search hsearch => exact hsearch.isTooDeep_eq_false
  | tooDeep _ _ hfull =>
    have hlimit := h.depth_le.1
    have hdepth := h.depth_le_pos
    omega
  | illegal _ _ _ _ _ _ _ => rfl
  | endsTopLevel _ _ => rfl
  | closesTopLevel _ _ _ => rfl

end Scan

namespace Scanner

open Scan

/-! ### Calls under another limit -/

/-- The same scanner under another limit. -/
def withLimit (s : Scanner) (limit : Nat) : Scanner :=
  { s with state := s.state.withLimit limit }

@[simp] private theorem grammar_withLimit {s : Scanner} {limit : Nat} :
    (s.withLimit limit).grammar = s.grammar := rfl

@[simp] private theorem source_withLimit {s : Scanner} {limit : Nat} :
    (s.withLimit limit).source = s.source := rfl

@[simp] private theorem state_withLimit {s : Scanner} {limit : Nat} :
    (s.withLimit limit).state = s.state.withLimit limit := rfl

@[simp] private theorem status_withLimit {s : Scanner} {limit : Nat} :
    (s.withLimit limit).status = s.status := rfl

/-- Whether a scan was ended by a mode that would nest too deep. -/
def endedTooDeep (s : Scanner) : Bool := s.error?.any ScanError.isTooDeep

/-- What a call comes to under a higher limit: the same, unless the lower one has ended the
scan. -/
def Agrees (limit : Nat) (low high : Option Token × Scanner) : Prop :=
  high = (low.1, low.2.withLimit limit) ∨ low.1 = none ∧ low.2.endedTooDeep = true

variable {limit : Nat}

private theorem limit_advance (cancelled : Bool) (fuel : Nat) (s : Scanner) :
    (advance cancelled fuel s).2.state.stack.limit = s.state.stack.limit := by
  induction fuel generalizing s with
  | zero => rfl
  | succ fuel ih =>
    have hstep := (step_becomes s.grammar s.source s.state).limit_eq
    unfold advance
    split
    · rfl
    · split
      · rfl
      · split
        · next hst => rwa [hst] at hstep
        · next hst => rwa [hst] at hstep
        · next hst =>
          rw [hst] at hstep
          exact (ih _).trans hstep

private theorem limit_next (cancelled : Bool) (s : Scanner) :
    (s.next cancelled).2.state.stack.limit = s.state.stack.limit := by
  unfold next
  split
  · rfl
  · exact limit_advance cancelled _ s
  · split
    · rfl
    · exact limit_advance cancelled _ s

private theorem advance_agrees (cancelled : Bool) (fuel : Nat) (s : Scanner)
    (hle : s.state.stack.limit ≤ limit) :
    Agrees limit (advance cancelled fuel s) (advance cancelled fuel (s.withLimit limit)) := by
  induction fuel generalizing s with
  | zero => exact .inl rfl
  | succ fuel ih =>
    have hlimit := (step_becomes s.grammar s.source s.state).limit_eq
    rw [advance, advance, grammar_withLimit, source_withLimit, state_withLimit,
      ScanState.pos_withLimit]
    split
    · exact .inl rfl
    split
    · exact .inl rfl
    · rcases step_agrees s.grammar s.source hle with hsame | ⟨e, he, hdeep⟩
      · rw [hsame]
        cases hst : step s.grammar s.source s.state with
        | mk outcome st =>
          rw [hst] at hlimit
          cases outcome with
          | emitted t => exact .inl rfl
          | failed e => exact .inl rfl
          | silent =>
            have hst' : st.stack.limit ≤ limit := Nat.le_trans (Nat.le_of_eq hlimit) hle
            exact ih { s with state := st, status := .running } hst'
      · cases hst : step s.grammar s.source s.state with
        | mk outcome st =>
          rw [hst] at he
          cases he
          exact .inr ⟨rfl, hdeep⟩

/-- A call under a higher limit answers the same, unless the lower one has ended the scan. -/
theorem next_agrees (cancelled : Bool) (s : Scanner) (hle : s.state.stack.limit ≤ limit) :
    Agrees limit (s.next cancelled) ((s.withLimit limit).next cancelled) := by
  have hadvance := advance_agrees cancelled (s.depth + 1) s hle
  rw [next, next, status_withLimit, source_withLimit, state_withLimit,
    ScanState.stack_withLimit, ScanState.pos_withLimit, ModeStack.top_withLimit]
  split
  · exact .inl rfl
  · exact hadvance
  · split
    · exact .inl rfl
    · exact hadvance

/-! ### Whole scans under another limit -/

private theorem drain_agrees (cancelAfter : Option Nat) (fuel count : Nat)
    (acc : Array (Token × Nat)) (s : Scanner) (hle : s.state.stack.limit ≤ limit) :
    drain cancelAfter fuel count acc (s.withLimit limit) =
        ((drain cancelAfter fuel count acc s).1,
          (drain cancelAfter fuel count acc s).2.withLimit limit) ∨
      (drain cancelAfter fuel count acc s).1.toList <+:
          (drain cancelAfter fuel count acc (s.withLimit limit)).1.toList ∧
        (drain cancelAfter fuel count acc s).2.endedTooDeep = true := by
  induction fuel generalizing count acc s with
  | zero => exact .inl rfl
  | succ fuel ih =>
    have hlimit := limit_next (isCancelled cancelAfter count) s
    have hagrees := next_agrees (isCancelled cancelAfter count) s hle
    cases hs : s.next (isCancelled cancelAfter count) with
    | mk token? s' =>
      rw [hs] at hlimit hagrees
      rcases hagrees with hsame | ⟨rfl, hdeep⟩
      · rw [drain, drain, hsame, hs]
        cases token? with
        | none => exact .inl rfl
        | some t =>
          have hs' : s'.state.stack.limit ≤ limit := Nat.le_trans (Nat.le_of_eq hlimit) hle
          exact ih (count + 1) (acc.push (t, s'.depth)) s' hs'
      · have hlow : drain cancelAfter (fuel + 1) count acc s = (acc, s') := by rw [drain, hs]
        rw [hlow]
        exact .inr ⟨acc_prefix_drain cancelAfter _ count acc _, hdeep⟩

/-- A scan under a higher limit comes to the same, unless the lower one has cut it short. -/
theorem run_agrees (cancelAfter : Option Nat) (s : Scanner) (hle : s.state.stack.limit ≤ limit) :
    (s.withLimit limit).run cancelAfter =
        ((s.run cancelAfter).1, (s.run cancelAfter).2.withLimit limit) ∨
      (s.run cancelAfter).1.toList <+: ((s.withLimit limit).run cancelAfter).1.toList ∧
        (s.run cancelAfter).2.endedTooDeep = true :=
  drain_agrees cancelAfter (s.source.size + 1) 0 #[] s hle

variable {g : CompiledGrammar} {src : Source} {maxDepth : Int} {tokens : List Token}
  {s : Scanner}

/-- Whatever calls are made, no more modes are open than the limit admits. -/
theorem Follows.depth_le (h : Follows g maxDepth src tokens s) :
    s.depth ≤ effectiveLimit maxDepth := by
  obtain ⟨-, -, os, st, hsteps, -, hat⟩ := h
  obtain ⟨hlimit, hdepth⟩ := Reaches.depth_le ⟨os, hsteps⟩
  have hat' : st.stack.Becomes s.state.stack := by
    cases hat with
    | ready _ _ hst => exact hst ▸ .refl _
    | running _ hst => exact hst ▸ .refl _
    | finished _ hst _ => exact hst ▸ .refl _
    | canceled _ hst _ => exact hst ▸ .refl _
    | illegal _ _ hst _ => exact hst ▸ .refl _
    | failed _ _ hstep =>
      have hstack := step_becomes s.grammar s.source st
      rwa [hstep] at hstack
  have hle := hat'.depth_le hdepth
  rwa [hat'.limit_eq, hlimit] at hle

/-- A scan of no more characters than the limit is not ended for nesting too deep. -/
theorem Follows.endedTooDeep_eq_false (h : Follows g maxDepth src tokens s)
    (hsize : src.size ≤ effectiveLimit maxDepth) : s.endedTooDeep = false := by
  unfold endedTooDeep
  cases he : s.error? with
  | none => rfl
  | some e =>
    by_cases hcanceled : e = .canceled
    · rw [hcanceled]
      rfl
    obtain ⟨os, st, hsteps, -, ⟨-, rfl, hillegal⟩ | ⟨hleft, hstep⟩⟩ := h.error he hcanceled
    · rcases (checkIllegal_yields (start_belongsTo g maxDepth).top (Nat.zero_le _)).error
        hillegal with hsearch | ⟨n, found, -, -, rfl⟩
      · exact hsearch.isTooDeep_eq_false
      · rfl
    · exact Reaches.step_isTooDeep ⟨os, hsteps⟩ hsize hleft hstep

/-- The nesting limit only cuts a scan short. Under a higher limit a scan hands out the tokens it
hands out under a lower one, with the same modes open behind them, and further ones only if the
lower limit has refused a mode; otherwise both end alike. Never are more modes open than the limit
admits, and a text of no more characters than the limit has no mode that is refused. -/
theorem limit_only_truncates (g : CompiledGrammar) (text : ByteArray) {maxDepth maxDepth' : Int}
    (hle : effectiveLimit maxDepth ≤ effectiveLimit maxDepth') (cancelAfter : Option Nat) :
    ((ofText g maxDepth text).run cancelAfter).1.toList <+:
        ((ofText g maxDepth' text).run cancelAfter).1.toList ∧
      (((ofText g maxDepth text).run cancelAfter).2.endedTooDeep = false →
        ((ofText g maxDepth' text).run cancelAfter).1 =
            ((ofText g maxDepth text).run cancelAfter).1 ∧
          ((ofText g maxDepth' text).run cancelAfter).2.status =
            ((ofText g maxDepth text).run cancelAfter).2.status) ∧
      (∀ calls, ((ofText g maxDepth text).nextEach calls).2.depth ≤ effectiveLimit maxDepth) ∧
      ((Source.ofText text).size ≤ effectiveLimit maxDepth →
        ((ofText g maxDepth text).run cancelAfter).2.endedTooDeep = false ∧
          ∀ calls, ((ofText g maxDepth text).nextEach calls).2.endedTooDeep = false) := by
  have hruns := run_agrees cancelAfter (ofText g maxDepth text) hle
  have hhigh : (ofText g maxDepth text).withLimit (effectiveLimit maxDepth') =
      ofText g maxDepth' text := rfl
  rw [hhigh] at hruns
  have hcalls (calls : List Bool) := nextEach_follows g maxDepth text calls
  refine ⟨?_, fun hended ↦ ?_, fun calls ↦ (hcalls calls).depth_le, fun hsize ↦ ?_⟩
  · rcases hruns with hsame | ⟨hbegins, -⟩
    · exact hsame ▸ List.prefix_rfl
    · exact hbegins
  · rcases hruns with hsame | ⟨-, hdeep⟩
    · rw [hsame]
      exact ⟨rfl, rfl⟩
    · rw [hended] at hdeep
      cases hdeep
  · obtain ⟨calls, -, hlast, -⟩ := run_calls g maxDepth text cancelAfter
    rw [hlast]
    exact ⟨(hcalls calls).endedTooDeep_eq_false hsize,
      fun calls ↦ (hcalls calls).endedTooDeep_eq_false hsize⟩

/-- A limit of one mode cuts off what a block inside a block would bring. -/
theorem limit_only_truncates_nestedBlocks :
    ∃ g, compile nestedBlocks = .ok g ∧ effectiveLimit 1 ≤ effectiveLimit 0 ∧
      ((ofText g 1 "<()>".toUTF8).run none).2.endedTooDeep = true ∧
      ((ofText g 1 "<()>".toUTF8).run none).1.toList <+:
        ((ofText g 0 "<()>".toUTF8).run none).1.toList := by
  obtain ⟨g, hg, hdeep⟩ := exists_compiled nestedBlocks
    (fun g ↦ ((ofText g 1 "<()>".toUTF8).run none).2.endedTooDeep) (by decide +kernel)
  have hle : effectiveLimit 1 ≤ effectiveLimit 0 := by decide
  exact ⟨g, hg, hle, hdeep, (limit_only_truncates g "<()>".toUTF8 hle none).1⟩

end Scanner

end CodeViewer
