import CodeViewer.Proofs.Scan.Step
import CodeViewer.Scan.Scanner
import Mathlib.Data.List.ReduceOption

/-!
# Runs of a scan

A scan is a run of steps, which begins in the top-level mode in front of the first character. The
calls for the next token only cut this run into pieces: whatever calls are made, and whichever of
them find the scan cancelled, the tokens are those the steps have emitted.
-/

namespace CodeViewer

open Text (Source)

namespace Scan

/-- The outcome of a step that does not fail: a token or nothing. -/
def outcomeOf : Option Token → Outcome
  | some t => .emitted t
  | none => .silent

/-- A step from a place where text is left that does not fail, and the token it emits. -/
def Moves (g : CompiledGrammar) (src : Source) (s : ScanState) (token? : Option Token)
    (s' : ScanState) : Prop :=
  s.pos < src.size ∧ step g src s = (outcomeOf token?, s')

/-- Whether an outcome is that of a step that fails. -/
def hasFailed : Outcome → Bool
  | .failed _ => true
  | _ => false

/-- A run of steps none of which fails, and what each of them emits. -/
inductive Steps (g : CompiledGrammar) (src : Source) :
    ScanState → List (Option Token) → ScanState → Prop where
  | nil (s : ScanState) : Steps g src s [] s
  | cons {s s' s'' : ScanState} {o : Option Token} {os : List (Option Token)} :
      Moves g src s o s' → Steps g src s' os s'' → Steps g src s (o :: os) s''

/-- The state a scan starts in. -/
def start (g : CompiledGrammar) (maxDepth : Int) : ScanState :=
  ⟨ModeStack.ofGrammar g maxDepth, 0⟩

/-- The states a scan can be in between two steps. -/
def Reaches (g : CompiledGrammar) (maxDepth : Int) (src : Source) (s : ScanState) : Prop :=
  ∃ os, Steps g src (start g maxDepth) os s

variable {g : CompiledGrammar} {src : Source} {maxDepth : Int} {s s' s'' : ScanState}
  {o : Option Token} {os os' : List (Option Token)}

/-- A run may be continued by another one. -/
theorem Steps.append (h : Steps g src s os s') (h' : Steps g src s' os' s'') :
    Steps g src s (os ++ os') s'' := by
  induction h with
  | nil s => exact h'
  | cons hm _ ih => exact .cons hm (ih h')

/-- A step that does not fail is part of a run. -/
theorem exists_moves (hpos : s.pos < src.size) (h : hasFailed (step g src s).1 = false) :
    ∃ o, Moves g src s o (step g src s).2 := by
  cases hs : step g src s with
  | mk outcome s' =>
    rw [hs] at h
    cases outcome with
    | emitted t => exact ⟨some t, hpos, hs⟩
    | silent => exact ⟨none, hpos, hs⟩
    | failed e => cases h

/-- The state after a number of steps, if none of them fails. -/
def stateAfter? (g : CompiledGrammar) (src : Source) : (count : Nat) → ScanState →
    Option ScanState
  | 0, s => some s
  | count + 1, s =>
    if s.pos < src.size && !hasFailed (step g src s).1 then
      stateAfter? g src count (step g src s).2
    else none

/-- Steps that do not fail are a run. -/
theorem steps_of_stateAfter? {count : Nat} (h : stateAfter? g src count s = some s') :
    ∃ os, Steps g src s os s' := by
  induction count generalizing s with
  | zero =>
    cases h
    exact ⟨[], .nil _⟩
  | succ count ih =>
    unfold stateAfter? at h
    split at h
    · next hmoves =>
      simp only [Bool.and_eq_true, decide_eq_true_eq, Bool.not_eq_true'] at hmoves
      obtain ⟨o, hm⟩ := exists_moves hmoves.1 hmoves.2
      obtain ⟨os, hsteps⟩ := ih h
      exact ⟨o :: os, .cons hm hsteps⟩
    · cases h

/-- What every step preserves, every run preserves. -/
theorem Steps.preserves {P : ScanState → Prop} (h : Steps g src s os s')
    (hp : ∀ s o s', P s → Moves g src s o s' → P s') (hs : P s) : P s' := by
  induction h with
  | nil s => exact hs
  | cons hm _ ih => exact ih (hp _ _ _ hs hm)

/-- A scan starts with the modes of its grammar. -/
theorem start_belongsTo (g : CompiledGrammar) (maxDepth : Int) :
    (start g maxDepth).stack.BelongsTo g :=
  ModeStack.belongsTo_ofGrammar g maxDepth

/-- A step that does not fail is one of the changes described. -/
theorem Moves.change (h : Moves g src s o s') (hs : s.stack.BelongsTo g) :
    Change g src s (outcomeOf o) s' := by
  have hc := step_change hs h.1
  rwa [h.2] at hc

/-- A step keeps to the modes of the grammar. -/
theorem Moves.belongsTo (h : Moves g src s o s') (hs : s.stack.BelongsTo g) :
    s'.stack.BelongsTo g := by
  have hc := h.change hs
  cases o with
  | none =>
    cases hc with
    | close count _ _ => exact hs.close count
  | some t =>
    cases hc with
    | consume count _ _ _ => exact hs.close count
    | enter hr _ _ _ _ => exact hs.enter hr

/-- A run keeps to the modes of the grammar. -/
theorem Steps.belongsTo (h : Steps g src s os s') (hs : s.stack.BelongsTo g) :
    s'.stack.BelongsTo g :=
  h.preserves (fun _ _ _ hs hm ↦ hm.belongsTo hs) hs

/-- All modes a scan is ever in are modes of its grammar. -/
theorem Reaches.belongsTo (h : Reaches g maxDepth src s) : s.stack.BelongsTo g := by
  obtain ⟨os, hs⟩ := h
  exact hs.belongsTo (start_belongsTo g maxDepth)

/-- A step that closes modes without emitting a token leaves fewer of them open. -/
theorem Moves.depth_lt (h : Moves g src s none s') (hs : s.stack.BelongsTo g) :
    s'.stack.depth < s.stack.depth := by
  cases h.change hs with
  | close count h0 hcount =>
    rw [ModeStack.depth_close]
    omega

end Scan

open Scan

namespace Scanner

/-! ### Single calls -/

/-- What the loop of a call comes to, however many steps it takes. -/
inductive Loops (cancelled : Bool) : Scanner → Option Token × Scanner → Prop where
  | finished {s : Scanner} : s.source.size ≤ s.state.pos → Loops cancelled s (none, s.stop none)
  | canceled {s : Scanner} : s.state.pos < s.source.size → cancelled = true →
      Loops cancelled s (none, s.stop (some .canceled))
  | emitted {s : Scanner} {t : Token} {st : ScanState} : cancelled = false →
      Moves s.grammar s.source s.state (some t) st →
      Loops cancelled s (some t, { s with state := st, status := .running, token := t })
  | failed {s : Scanner} {e : ScanError} {st : ScanState} : s.state.pos < s.source.size →
      cancelled = false → step s.grammar s.source s.state = (.failed e, st) →
      Loops cancelled s (none, { s with state := st }.stop (some e))
  | again {s : Scanner} {st : ScanState} {r : Option Token × Scanner} : cancelled = false →
      Moves s.grammar s.source s.state none st →
      Loops cancelled { s with state := st, status := .running } r → Loops cancelled s r

/-- The bound on the steps of a call is never reached: modes can be closed without consuming
anything only as long as some are open. -/
theorem advance_loops (cancelled : Bool) (fuel : Nat) (s : Scanner)
    (hs : s.state.stack.BelongsTo s.grammar) (hf : s.depth < fuel) :
    Loops cancelled s (advance cancelled fuel s) := by
  induction fuel generalizing s with
  | zero => omega
  | succ fuel ih =>
    unfold advance
    split
    · next hend => exact .finished hend
    · next hleft =>
      have hpos : s.state.pos < s.source.size := Nat.not_le.mp hleft
      cases cancelled with
      | true => exact .canceled hpos rfl
      | false =>
        simp only [Bool.false_eq_true, ite_false]
        split
        · next t st hstep => exact .emitted rfl ⟨hpos, hstep⟩
        · next e st hstep => exact .failed hpos rfl hstep
        · next st hstep =>
          have hm : Moves s.grammar s.source s.state none st := ⟨hpos, hstep⟩
          have hdepth := hm.depth_lt hs
          refine .again rfl hm (ih _ (hm.belongsTo hs) ?_)
          change st.stack.depth < fuel
          change s.state.stack.depth < fuel + 1 at hf
          omega

/-- Where a scanner stands after steps that have emitted `os` and led to `st`. -/
inductive At (s : Scanner) (os : List (Option Token)) (st : ScanState) : Prop where
  | ready : s.status = .ready → os = [] → s.state = st → At s os st
  | running : s.status = .running → s.state = st → At s os st
  | finished : s.status = .stopped none → s.state = st → s.source.size ≤ st.pos → At s os st
  | canceled : s.status = .stopped (some .canceled) → s.state = st → st.pos < s.source.size →
      At s os st
  /-- The text begins with what it must not begin with. -/
  | illegal {e : ScanError} : s.status = .stopped (some e) → os = [] → s.state = st →
      checkIllegal s.source st.stack.top st.pos = .error e → At s os st
  | failed {e : ScanError} : s.status = .stopped (some e) → st.pos < s.source.size →
      step s.grammar s.source st = (.failed e, s.state) → At s os st

private theorem At.error {s : Scanner} {os : List (Option Token)} {st : ScanState} (h : s.At os st)
    {e : ScanError} (he : s.error? = some e) (hcanceled : e ≠ .canceled) :
    os = [] ∧ checkIllegal s.source st.stack.top st.pos = .error e ∨
      st.pos < s.source.size ∧ step s.grammar s.source st = (.failed e, s.state) := by
  cases h with
  | ready hstatus _ _ => simp [error?, hstatus] at he
  | running hstatus _ => simp [error?, hstatus] at he
  | finished hstatus _ _ => simp [error?, hstatus] at he
  | canceled hstatus _ _ =>
    simp only [error?, hstatus, Option.some.injEq] at he
    exact absurd he.symm hcanceled
  | illegal hstatus hnil _ hillegal =>
    simp only [error?, hstatus, Option.some.injEq] at he
    subst he
    exact .inl ⟨hnil, hillegal⟩
  | failed hstatus hleft hstep =>
    simp only [error?, hstatus, Option.some.injEq] at he
    subst he
    exact .inr ⟨hleft, hstep⟩

private theorem Loops.steps {cancelled : Bool} {s : Scanner} {r : Option Token × Scanner}
    (h : Loops cancelled s r) (before : List (Option Token)) :
    r.2.grammar = s.grammar ∧ r.2.source = s.source ∧
      ∃ os st, Steps s.grammar s.source s.state os st ∧ os.reduceOption = r.1.toList ∧
        r.2.At (before ++ os) st := by
  induction h generalizing before with
  | @finished s hend => exact ⟨rfl, rfl, [], s.state, .nil _, rfl, .finished rfl rfl hend⟩
  | @canceled s hleft _ => exact ⟨rfl, rfl, [], s.state, .nil _, rfl, .canceled rfl rfl hleft⟩
  | @emitted s t st _ hm =>
    exact ⟨rfl, rfl, [some t], st, .cons hm (.nil _), rfl, .running rfl rfl⟩
  | @failed s e st hleft _ hstep =>
    exact ⟨rfl, rfl, [], s.state, .nil _, rfl, .failed rfl hleft hstep⟩
  | @again s st r _ hm _ ih =>
    obtain ⟨hg, hsrc, os, st', hsteps, htokens, hat⟩ := ih (before ++ [none])
    refine ⟨hg, hsrc, none :: os, st', .cons hm hsteps, ?_, ?_⟩
    · rw [List.reduceOption_cons_of_none, htokens]
    · simpa using hat

/-- What a call comes to. The first one looks for text that must not start the input. -/
def Answers (cancelled : Bool) (s : Scanner) (r : Option Token × Scanner) : Prop :=
  match s.status with
  | .stopped _ => r = (none, s)
  | .running => Loops cancelled s r
  | .ready =>
    match checkIllegal s.source s.state.stack.top s.state.pos with
    | .error e => r = (none, s.stop (some e))
    | .ok _ => Loops cancelled s r

private theorem Loops.stopped {cancelled : Bool} {s : Scanner} {r : Option Token × Scanner}
    (h : Loops cancelled s r) (hnone : r.1 = none) : ∃ e, r.2.status = .stopped e := by
  induction h with
  | finished _ => exact ⟨_, rfl⟩
  | canceled _ _ => exact ⟨_, rfl⟩
  | emitted _ _ => cases hnone
  | failed _ _ _ => exact ⟨_, rfl⟩
  | again _ _ _ ih => exact ih hnone

/-- A call without a token ends the scan. -/
theorem Answers.stopped {cancelled : Bool} {s : Scanner} {r : Option Token × Scanner}
    (h : Answers cancelled s r) (hnone : r.1 = none) : ∃ e, r.2.status = .stopped e := by
  unfold Answers at h
  split at h
  · next e hstatus =>
    subst h
    exact ⟨e, hstatus⟩
  · exact h.stopped hnone
  · split at h
    · subst h
      exact ⟨_, rfl⟩
    · exact h.stopped hnone

private theorem Loops.running {cancelled : Bool} {s : Scanner} {r : Option Token × Scanner}
    (h : Loops cancelled s r) {t : Token} (ht : r.1 = some t) : r.2.status = .running := by
  induction h with
  | finished _ => cases ht
  | canceled _ _ => cases ht
  | emitted _ _ => rfl
  | failed _ _ _ => cases ht
  | again _ _ _ ih => exact ih ht

/-- A call that hands out a token leaves the scan running. -/
theorem Answers.running {cancelled : Bool} {s : Scanner} {r : Option Token × Scanner}
    (h : Answers cancelled s r) {t : Token} (ht : r.1 = some t) : r.2.status = .running := by
  unfold Answers at h
  split at h
  · subst h
    cases ht
  · exact h.running ht
  · split at h
    · subst h
      cases ht
    · exact h.running ht

private theorem Loops.token_eq {cancelled : Bool} {s : Scanner} {r : Option Token × Scanner}
    (h : Loops cancelled s r) : r.2.token = r.1.getD Token.none := by
  induction h with
  | finished _ => rfl
  | canceled _ _ => rfl
  | emitted _ _ => rfl
  | failed _ _ _ => rfl
  | again _ _ _ ih => exact ih

/-- The token a call has handed out is current behind it. If it has handed out none, no token is
current. -/
theorem Answers.token_eq {cancelled : Bool} {s : Scanner} {r : Option Token × Scanner}
    (h : Answers cancelled s r) (hs : ∀ e, s.status = .stopped e → s.token = Token.none) :
    r.2.token = r.1.getD Token.none := by
  unfold Answers at h
  split at h
  · next e hstatus =>
    subst h
    exact hs e hstatus
  · exact h.token_eq
  · split at h
    · subst h
      rfl
    · exact h.token_eq

/-- Every call returns. -/
theorem next_answers (cancelled : Bool) (s : Scanner)
    (hs : s.state.stack.BelongsTo s.grammar) : Answers cancelled s (s.next cancelled) := by
  have hloop := advance_loops cancelled (s.depth + 1) s hs (Nat.lt_succ_self _)
  unfold Answers next
  cases s.status with
  | stopped e => rfl
  | running => exact hloop
  | ready =>
    simp only
    cases checkIllegal s.source s.state.stack.top s.state.pos with
    | error e => rfl
    | ok _ => exact hloop

/-! ### Successive calls -/

/-- The tokens that successive calls hand out, each of which finds the scan cancelled or not, and
the scanner behind them. -/
def nextEach (s : Scanner) : List Bool → List Token × Scanner
  | [] => ([], s)
  | cancelled :: rest =>
    let answer := s.next cancelled
    let later := answer.2.nextEach rest
    (answer.1.toList ++ later.1, later.2)

/-- A scanner that was started on a text and has handed out tokens: a run of steps has emitted
them, behind which it stands. -/
def Follows (g : CompiledGrammar) (maxDepth : Int) (src : Source) (tokens : List Token)
    (s : Scanner) : Prop :=
  s.grammar = g ∧ s.source = src ∧
    ∃ os st, Steps g src (start g maxDepth) os st ∧ os.reduceOption = tokens ∧ s.At os st

variable {g : CompiledGrammar} {maxDepth : Int} {src : Source} {tokens : List Token}
  {s : Scanner}

private theorem Follows.loops {cancelled : Bool} {r : Option Token × Scanner}
    {os : List (Option Token)} (hg : s.grammar = g) (hsrc : s.source = src)
    (hsteps : Steps g src (start g maxDepth) os s.state) (htokens : os.reduceOption = tokens)
    (h : Loops cancelled s r) : Follows g maxDepth src (tokens ++ r.1.toList) r.2 := by
  obtain ⟨hg', hsrc', os', st, hsteps', htokens', hat⟩ := h.steps os
  rw [hg, hsrc] at hsteps'
  refine ⟨hg'.trans hg, hsrc'.trans hsrc, os ++ os', st, hsteps.append hsteps', ?_, hat⟩
  rw [List.reduceOption_append, htokens, htokens']

/-- Every call to a scanner that was started on a text returns. -/
theorem Follows.answers (h : Follows g maxDepth src tokens s) (cancelled : Bool) :
    Answers cancelled s (s.next cancelled) := by
  obtain ⟨hg, hsrc, os, st, hsteps, -, hat⟩ := h
  have hcalled (hst : s.state = st) : Answers cancelled s (s.next cancelled) := by
    apply next_answers
    rw [hst, hg]
    exact hsteps.belongsTo (start_belongsTo g maxDepth)
  have hover (e : Option ScanError) (hstatus : s.status = .stopped e) :
      Answers cancelled s (s.next cancelled) := by
    simp [Answers, Scanner.next, hstatus]
  cases hat with
  | ready _ _ hst => exact hcalled hst
  | running _ hst => exact hcalled hst
  | finished hstatus _ _ => exact hover _ hstatus
  | canceled hstatus _ _ => exact hover _ hstatus
  | illegal hstatus _ _ _ => exact hover _ hstatus
  | failed hstatus _ _ => exact hover _ hstatus

/-- A scan that ends with an error, and was not cancelled, fails at its start or in a step, and the
tokens it has handed out are those of the steps before. -/
theorem Follows.error (h : Follows g maxDepth src tokens s) {e : ScanError}
    (he : s.error? = some e) (hcanceled : e ≠ .canceled) :
    ∃ os st, Steps g src (start g maxDepth) os st ∧ os.reduceOption = tokens ∧
      (tokens = [] ∧ st = start g maxDepth ∧ checkIllegal src st.stack.top st.pos = .error e ∨
        st.pos < src.size ∧ step g src st = (.failed e, s.state)) := by
  obtain ⟨rfl, rfl, os, st, hsteps, rfl, hat⟩ := h
  refine ⟨os, st, hsteps, rfl, ?_⟩
  rcases hat.error he hcanceled with ⟨rfl, hillegal⟩ | hfailed
  · cases hsteps
    exact .inl ⟨rfl, rfl, hillegal⟩
  · exact .inr hfailed

/-- A call for the next token continues the run. -/
theorem Follows.next (h : Follows g maxDepth src tokens s) (cancelled : Bool) :
    Follows g maxDepth src (tokens ++ (s.next cancelled).1.toList) (s.next cancelled).2 := by
  have ha := h.answers cancelled
  have hrun := h
  obtain ⟨hg, hsrc, os, st, hsteps, htokens, hat⟩ := h
  have hover (e : Option ScanError) (hstatus : s.status = .stopped e) :
      Follows g maxDepth src (tokens ++ (s.next cancelled).1.toList) (s.next cancelled).2 := by
    simp only [Answers, hstatus] at ha
    simpa [ha] using hrun
  cases hat with
  | ready hstatus hnil hst =>
    subst hst
    simp only [Answers, hstatus] at ha
    split at ha
    · next e hillegal =>
      rw [ha]
      refine ⟨hg, hsrc, os, s.state, hsteps, ?_, .illegal rfl hnil rfl hillegal⟩
      rw [htokens, Option.toList_none, List.append_nil]
    · exact .loops hg hsrc hsteps htokens ha
  | running hstatus hst =>
    subst hst
    simp only [Answers, hstatus] at ha
    exact .loops hg hsrc hsteps htokens ha
  | finished hstatus _ _ => exact hover _ hstatus
  | canceled hstatus _ _ => exact hover _ hstatus
  | illegal hstatus _ _ _ => exact hover _ hstatus
  | failed hstatus _ _ => exact hover _ hstatus

/-- Successive calls continue the run. -/
theorem Follows.nextEach (h : Follows g maxDepth src tokens s) (calls : List Bool) :
    Follows g maxDepth src (tokens ++ (s.nextEach calls).1) (s.nextEach calls).2 := by
  induction calls generalizing s tokens with
  | nil => simpa [Scanner.nextEach] using h
  | cons cancelled rest ih =>
    have hrest := ih (h.next cancelled)
    simpa [Scanner.nextEach, List.append_assoc] using hrest

/-- A new scanner has made no step. -/
theorem follows_ofText (g : CompiledGrammar) (maxDepth : Int) (text : ByteArray) :
    Follows g maxDepth (Source.ofText text) [] (ofText g maxDepth text) :=
  ⟨rfl, rfl, [], start g maxDepth, .nil _, rfl, .ready rfl rfl rfl⟩

/-- The tokens that calls hand out are those a run of steps has emitted. -/
theorem nextEach_follows (g : CompiledGrammar) (maxDepth : Int) (text : ByteArray)
    (calls : List Bool) :
    Follows g maxDepth (Source.ofText text) ((ofText g maxDepth text).nextEach calls).1
      ((ofText g maxDepth text).nextEach calls).2 := by
  simpa using (follows_ofText g maxDepth text).nextEach calls

end Scanner

end CodeViewer
