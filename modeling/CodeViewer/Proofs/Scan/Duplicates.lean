import CodeViewer.Proofs.Grammar.Visits
import CodeViewer.Proofs.Scan.Ambiguity
import CodeViewer.Proofs.Scan.Run

/-!
# Rules that apply more than once

The deeper a mode is entered from within itself, the more often its rules apply. A rule that has
been tried changes nothing when it is tried again, so that only the first of each decides what is
taken.
-/

namespace CodeViewer

open Text (Source)

/-- The mode with each of its rules once, where it applies first. -/
def Mode.withoutDuplicates (m : Mode) : Mode := { m with visible := uniqueRules m.visible }

variable {g : CompiledGrammar} {src : Source} {maxDepth : Int} {pos : Nat}

namespace Scan

variable {best : Option Candidate}

/-! ### Trying rules -/

/-- How far a search through rules has come: whether a pattern has matched, and the best candidate
so far. -/
structure Tried where
  patternSeen : Bool
  best : Option Candidate

/-- Try a further rule. -/
def tryRule (g : CompiledGrammar) (src : Source) (pos : Nat) (t : Tried) (r : CompiledRule) :
    Except ScanError Tried :=
  if !r.head.literal && t.patternSeen then .ok t
  else do
    match ← ruleCandidate? g src pos r with
    | none => .ok t
    | some c => .ok ⟨t.patternSeen || !r.head.literal, better t.best c⟩

private theorem bestRule_eq_foldlM (t : Tried) (rules : List CompiledRule) :
    bestRule g src pos t.patternSeen t.best rules =
      (rules.foldlM (tryRule g src pos) t).map (·.best) := by
  induction rules generalizing t with
  | nil => rfl
  | cons r rs ih =>
    rw [bestRule, List.foldlM_cons, tryRule]
    split
    · exact ih t
    · cases ruleCandidate? g src pos r with
      | error e => rfl
      | ok c? =>
        cases c? with
        | none => exact ih t
        | some c => exact ih ⟨t.patternSeen || !r.head.literal, better t.best c⟩

/-- A candidate is no better than the best one: it is shorter, or as long and of no lower rank. -/
def NoBetter (best : Option Candidate) (c : Candidate) : Prop :=
  ∃ b, best = some b ∧ (c.length < b.length ∨ c.length = b.length ∧ b.rank ≤ c.rank)

private theorem NoBetter.better_eq {c : Candidate} (h : NoBetter best c) :
    better best c = best := by
  obtain ⟨b, rfl, hle⟩ := h
  simp only [better, Bool.or_eq_true, Bool.and_eq_true, decide_eq_true_eq, beq_iff_eq]
  rw [if_neg (by omega)]

private theorem noBetter_better (best : Option Candidate) (c : Candidate) :
    NoBetter (better best c) c ∧ ∀ d, NoBetter best d → NoBetter (better best c) d := by
  unfold NoBetter
  cases best with
  | none => simp [better]
  | some b =>
    simp only [better, Bool.or_eq_true, Bool.and_eq_true, decide_eq_true_eq, beq_iff_eq]
    split <;> simp only [Option.some.injEq, exists_eq_left']
    · constructor
      · exact .inr ⟨trivial, Nat.le_refl c.rank⟩
      · intro d hd
        omega
    · constructor
      · omega
      · intro d hd
        omega

/-- The ways in which a rule may be tried. -/
inductive Tries (g : CompiledGrammar) (src : Source) (pos : Nat) (t : Tried) (r : CompiledRule) :
    Tried → Prop where
  | passedOver : r.head.literal = false → t.patternSeen = true → Tries g src pos t r t
  | noMatch : ruleCandidate? g src pos r = .ok none → Tries g src pos t r t
  | candidate {c : Candidate} : ruleCandidate? g src pos r = .ok (some c) →
      Tries g src pos t r ⟨t.patternSeen || !r.head.literal, better t.best c⟩

private theorem tries_of_tryRule {t t' : Tried} {r : CompiledRule}
    (h : tryRule g src pos t r = .ok t') :
    Tries g src pos t r t' := by
  unfold tryRule at h
  split at h
  · next hpassed =>
    cases h
    simp only [Bool.and_eq_true, Bool.not_eq_true'] at hpassed
    exact .passedOver hpassed.1 hpassed.2
  · obtain ⟨c?, hc, h⟩ := bind_eq_ok.mp h
    cases c? with
    | none =>
      cases h
      exact .noMatch hc
    | some c =>
      cases h
      exact .candidate hc

/-! ### Trying rules again -/

/-- A rule has nothing to add to a search: it begins with a pattern, and one has been found; or it
does not match; or it is no better than what was found. -/
inductive Idle (g : CompiledGrammar) (src : Source) (pos : Nat) (t : Tried) (r : CompiledRule) :
    Prop where
  | passedOver : r.head.literal = false → t.patternSeen = true → Idle g src pos t r
  | noMatch : ruleCandidate? g src pos r = .ok none → Idle g src pos t r
  | noBetter {c : Candidate} : r.head.literal = true →
      ruleCandidate? g src pos r = .ok (some c) → NoBetter t.best c → Idle g src pos t r

variable {t t' : Tried} {r q : CompiledRule}

private theorem Idle.tryRule_eq (h : Idle g src pos t r) : tryRule g src pos t r = .ok t := by
  unfold tryRule
  split
  · rfl
  · next hnot =>
    cases h with
    | passedOver hpattern hseen => simp [hpattern, hseen] at hnot
    | noMatch hc =>
      rw [hc]
      rfl
    | noBetter hliteral hc hbest =>
      rw [hc]
      change Except.ok (Tried.mk (t.patternSeen || !r.head.literal) _) = _
      rw [hbest.better_eq, hliteral, Bool.not_true, Bool.or_false]

private theorem idle_of_tryRule (h : tryRule g src pos t r = .ok t') : Idle g src pos t' r := by
  cases tries_of_tryRule h with
  | passedOver hpattern hseen => exact .passedOver hpattern hseen
  | noMatch hc => exact .noMatch hc
  | @candidate c hc =>
    cases hliteral : r.head.literal with
    | false => exact .passedOver hliteral (by simp)
    | true => exact .noBetter hliteral hc (noBetter_better t.best c).1

private theorem Idle.tryRule (h : Idle g src pos t r) (hq : tryRule g src pos t q = .ok t') :
    Idle g src pos t' r := by
  cases tries_of_tryRule hq with
  | passedOver _ _ => exact h
  | noMatch _ => exact h
  | @candidate d _ =>
    cases h with
    | passedOver hpattern hseen => exact .passedOver hpattern (by simp [hseen])
    | noMatch hc => exact .noMatch hc
    | noBetter hliteral hc hbest =>
      exact .noBetter hliteral hc ((noBetter_better t.best d).2 _ hbest)

private theorem foldlM_firstOccurrences {rules xs : List CompiledRule} (hn : Numbered rules)
    (hxs : Within rules xs) {seen : List Nat}
    (hseen : ∀ r ∈ xs, r.id ∈ seen → Idle g src pos t r) :
    (firstOccurrences seen xs).foldlM (tryRule g src pos) t =
      xs.foldlM (tryRule g src pos) t := by
  -- The rules that have been seen stay idle while the rules behind them are tried.
  induction xs generalizing seen t with
  | nil => rfl
  | cons x xs ih =>
    have hrest : Within rules xs := fun r hr ↦ hxs r (List.mem_cons_of_mem x hr)
    rw [firstOccurrences, List.foldlM_cons]
    split
    · next hx =>
      have hidle := hseen x List.mem_cons_self (List.contains_iff_mem.mp hx)
      rw [hidle.tryRule_eq]
      exact ih hrest fun r hr ↦ hseen r (List.mem_cons_of_mem x hr)
    · rw [List.foldlM_cons]
      cases htry : Scan.tryRule g src pos t x with
      | error e => rfl
      | ok t' =>
        apply ih hrest
        intro r hr hid
        rcases List.mem_cons.mp hid with hid | hid
        · rw [hn r (hrest r hr) x (hxs x List.mem_cons_self) hid]
          exact idle_of_tryRule htry
        · exact (hseen r (List.mem_cons_of_mem x hr) hid).tryRule htry

/-- The first of each rule decides which candidate is the best. -/
theorem bestRule_uniqueRules {rules xs : List CompiledRule} (hn : Numbered rules)
    (hxs : Within rules xs) :
    bestRule g src pos false none (uniqueRules xs) = bestRule g src pos false none xs := by
  have hfold : (uniqueRules xs).foldlM (tryRule g src pos) ⟨false, none⟩ =
      xs.foldlM (tryRule g src pos) ⟨false, none⟩ := by
    apply foldlM_firstOccurrences hn hxs
    intro r _ hr
    exact absurd hr List.not_mem_nil
  rw [bestRule_eq_foldlM ⟨false, none⟩, bestRule_eq_foldlM ⟨false, none⟩, hfold]

/-- A mode takes the same candidate, or fails to find one in the same way, if its rules apply once
only. -/
theorem candidate?_withoutDuplicates {m : Mode} (hn : Numbered g.rules)
    (hm : Within g.rules m.visible) :
    candidate? g src m.withoutDuplicates pos = candidate? g src m pos := by
  rw [candidate?, candidate?, Mode.withoutDuplicates, bestRule_uniqueRules hn hm]

end Scan

/-! ### States without duplicates -/

namespace Mode

@[simp] private theorem spec_withoutDuplicates (m : Mode) : m.withoutDuplicates.spec = m.spec := rfl

@[simp] private theorem withoutDuplicates_withoutDuplicates (m : Mode) :
    m.withoutDuplicates.withoutDuplicates = m.withoutDuplicates := by
  simp only [withoutDuplicates, uniqueRules_uniqueRules]

end Mode

/-- The modes of a stack with each of their rules once. -/
def ModeStack.withoutDuplicates (s : ModeStack) : ModeStack :=
  { s with root := s.root.withoutDuplicates, opened := s.opened.map Mode.withoutDuplicates }

/-- A state of a scan in the modes of which each rule applies once. -/
def ScanState.withoutDuplicates (s : ScanState) : ScanState :=
  { s with stack := s.stack.withoutDuplicates }

private theorem Mode.inner_withoutDuplicates (m : Mode) (r : CompiledRule) :
    (ModeStack.inner m.withoutDuplicates r).withoutDuplicates =
      (ModeStack.inner m r).withoutDuplicates := by
  have hvisible := uniqueRules_innerRules r m.visible
  unfold ModeStack.inner
  unfold innerRules at hvisible
  split at hvisible
  · next hno => rw [if_pos hno, if_pos hno]
  · next hno =>
    rw [if_neg hno, if_neg hno]
    simp only [withoutDuplicates, hvisible]

namespace ModeStack

variable (s : ModeStack)

@[simp] private theorem top_withoutDuplicates :
    s.withoutDuplicates.top = s.top.withoutDuplicates := by
  unfold top withoutDuplicates
  cases s.opened with
  | nil => rfl
  | cons m rest => rfl

@[simp] private theorem depth_withoutDuplicates : s.withoutDuplicates.depth = s.depth := by
  simp [depth, withoutDuplicates]

@[simp] private theorem limit_withoutDuplicates : s.withoutDuplicates.limit = s.limit := rfl

private theorem pop_withoutDuplicates :
    s.withoutDuplicates.pop = s.pop.map ModeStack.withoutDuplicates := by
  unfold pop withoutDuplicates
  cases s.opened with
  | nil => rfl
  | cons m rest => rfl

private theorem enter_withoutDuplicates (r : CompiledRule) :
    (s.withoutDuplicates.enter r).withoutDuplicates = (s.enter r).withoutDuplicates := by
  have hinner := s.top.inner_withoutDuplicates r
  simp only [enter, withoutDuplicates, List.map_cons, List.map_map, Function.comp_def,
    Mode.withoutDuplicates_withoutDuplicates]
  rw [← withoutDuplicates, top_withoutDuplicates, hinner]

private theorem withoutDuplicates_withoutDuplicates :
    s.withoutDuplicates.withoutDuplicates = s.withoutDuplicates := by
  simp [withoutDuplicates, Function.comp_def]

end ModeStack

namespace Scan

/-- Two results of a step: the same outcome, and states that differ in repeated rules at most. -/
def Alike (x y : Outcome × ScanState) : Prop :=
  x.1 = y.1 ∧ x.2.withoutDuplicates = y.2.withoutDuplicates

variable {s : ScanState} {m : Mode} {parents : List Mode}

private theorem alike_withoutDuplicates (o : Outcome) (stack : ModeStack) (pos : Nat) :
    Alike (o, ⟨stack.withoutDuplicates, pos⟩) (o, ⟨stack, pos⟩) := by
  refine ⟨rfl, ?_⟩
  simp only [ScanState.withoutDuplicates, ModeStack.withoutDuplicates_withoutDuplicates]

private theorem parentEnds_withoutDuplicates (parents : List Mode) :
    parentEnds src pos (parents.map Mode.withoutDuplicates) = parentEnds src pos parents := by
  induction parents with
  | nil => rfl
  | cons p ps ih => simp only [List.map_cons, parentEnds, Mode.spec_withoutDuplicates, ih]

private theorem popIf_withoutDuplicates (also : Bool) (stack : ModeStack) :
    (if also then stack.withoutDuplicates.pop else .ok stack.withoutDuplicates) =
      (if also then stack.pop else .ok stack).map ModeStack.withoutDuplicates := by
  rw [ModeStack.pop_withoutDuplicates]
  cases also with
  | false => rfl
  | true => rfl

private theorem closeMode_withoutDuplicates (s : ScanState) (m : Mode) (n : Nat) :
    Alike (closeMode src s.withoutDuplicates m.withoutDuplicates n) (closeMode src s m n) := by
  change Alike (closeMode src s.withoutDuplicates m n) (closeMode src s m n)
  unfold closeMode
  simp only [ScanState.withoutDuplicates, ModeStack.pop_withoutDuplicates]
  cases s.stack.pop with
  | error e => exact alike_withoutDuplicates _ _ _
  | ok popped =>
    simp only [Except.map, popIf_withoutDuplicates]
    cases (if m.spec.endsParent then popped.pop else .ok popped) with
    | error e => exact alike_withoutDuplicates _ _ _
    | ok stack =>
      simp only
      split
      · exact alike_withoutDuplicates _ _ _
      · exact alike_withoutDuplicates _ _ _

private theorem checkIllegal_inner (m m' : Mode) (r : CompiledRule) :
    checkIllegal src (ModeStack.inner m r) pos = checkIllegal src (ModeStack.inner m' r) pos := by
  simp only [checkIllegal, ModeStack.spec_inner]

private theorem enter_withoutDuplicates (s : ScanState) (r : CompiledRule) (stop : Nat) :
    Alike (enter src s.withoutDuplicates r stop) (enter src s r stop) := by
  have halike (o : Outcome) :
      Alike (o, ⟨s.stack.withoutDuplicates.enter r, stop⟩) (o, ⟨s.stack.enter r, stop⟩) := by
    refine ⟨rfl, ?_⟩
    simp only [ScanState.withoutDuplicates, ModeStack.enter_withoutDuplicates]
  unfold enter
  simp only [ScanState.withoutDuplicates]
  cases hpush : s.stack.push r (src.offset s.pos) with
  | error e =>
    obtain ⟨hfull, rfl⟩ := ModeStack.push_eq_error.mp hpush
    have honce : s.stack.withoutDuplicates.push r (src.offset s.pos) =
        .error (.tooDeep s.stack.limit (src.offset s.pos) r.head.cls) :=
      ModeStack.push_eq_error.mpr ⟨by simpa using hfull, rfl⟩
    rw [honce]
    exact alike_withoutDuplicates _ _ _
  | ok stack =>
    obtain ⟨hfree, rfl⟩ := ModeStack.push_eq_ok.mp hpush
    have honce : s.stack.withoutDuplicates.push r (src.offset s.pos) =
        .ok (s.stack.withoutDuplicates.enter r) :=
      ModeStack.push_eq_ok.mpr ⟨by simpa using hfree, rfl⟩
    rw [honce]
    simp only [ModeStack.top_enter, checkIllegal_inner s.stack.withoutDuplicates.top s.stack.top r]
    split
    · exact halike _
    · split
      · exact halike _
      · exact halike _

private theorem take_withoutDuplicates (s : ScanState) (c : Candidate) :
    Alike (take src s.withoutDuplicates c) (take src s c) := by
  unfold take
  cases c.rule with
  | none => exact alike_withoutDuplicates _ _ _
  | some r =>
    simp only
    cases r.head.action with
    | enter mode => exact enter_withoutDuplicates s r _
    | emit endsParent =>
      simp only [ScanState.withoutDuplicates, popIf_withoutDuplicates]
      cases (if endsParent then s.stack.pop else .ok s.stack) with
      | error e => exact alike_withoutDuplicates _ _ _
      | ok stack => exact alike_withoutDuplicates _ _ _

/-! ### Steps without duplicates -/

section

variable (hn : Numbered g.rules) (hm : Within g.rules m.visible)
include hn hm

private theorem happensAt_withoutDuplicates :
    happensAt g src m.withoutDuplicates (parents.map Mode.withoutDuplicates) pos =
      happensAt g src m parents pos := by
  simp only [happensAt, Mode.spec_withoutDuplicates, parentEnds_withoutDuplicates,
    candidate?_withoutDuplicates hn hm]

private theorem absorbedEnd_withoutDuplicates (fuel : Nat) :
    absorbedEnd g src m.withoutDuplicates (parents.map Mode.withoutDuplicates) fuel pos =
      absorbedEnd g src m parents fuel pos := by
  induction fuel generalizing pos with
  | zero => rfl
  | succ fuel ih => simp only [absorbedEnd, happensAt_withoutDuplicates hn hm, ih]

private theorem unmatched_withoutDuplicates (s : ScanState) :
    Alike (unmatched g src s.withoutDuplicates m.withoutDuplicates
        (parents.map Mode.withoutDuplicates))
      (unmatched g src s m parents) := by
  unfold unmatched
  simp only [ScanState.withoutDuplicates, Mode.spec_withoutDuplicates,
    absorbedEnd_withoutDuplicates hn hm]
  split
  · exact alike_withoutDuplicates _ _ _
  · split
    · exact alike_withoutDuplicates _ _ _
    · exact alike_withoutDuplicates _ _ _

private theorem advance_withoutDuplicates (src : Source) (s : ScanState) (parents : List Mode) :
    Alike (advance g src s.withoutDuplicates m.withoutDuplicates
        (parents.map Mode.withoutDuplicates))
      (advance g src s m parents) := by
  unfold advance
  rw [candidate?_withoutDuplicates hn hm]
  have hpos : s.withoutDuplicates.pos = s.pos := rfl
  rw [hpos]
  split
  · exact alike_withoutDuplicates _ _ _
  · exact take_withoutDuplicates s _
  · exact unmatched_withoutDuplicates hn hm s

omit hm in
/-- A step does not depend on the rules that apply more than once. -/
theorem step_withoutDuplicates (src : Source) (hs : s.stack.BelongsTo g) :
    Alike (step g src s.withoutDuplicates) (step g src s) := by
  cases ho : s.stack.opened with
  | nil =>
    have htop : s.stack.top = s.stack.root := by simp [ModeStack.top, ho]
    have hroot := hs.top
    rw [htop] at hroot
    have hadvance := advance_withoutDuplicates hn hroot.visible src s []
    simpa only [step, ho, ScanState.withoutDuplicates, ModeStack.withoutDuplicates, List.map_nil]
      using hadvance
  | cons m parents =>
    have hm : m.BelongsTo g := hs.opened m (by simp [ho])
    have hadvance := advance_withoutDuplicates hn hm.visible src s parents
    have ho' : s.withoutDuplicates.stack.opened =
        m.withoutDuplicates :: parents.map Mode.withoutDuplicates := by
      simp [ScanState.withoutDuplicates, ModeStack.withoutDuplicates, ho]
    have hpos : s.withoutDuplicates.pos = s.pos := rfl
    simp only [step, ho, ho', hpos, Mode.spec_withoutDuplicates, parentEnds_withoutDuplicates]
    split
    · exact alike_withoutDuplicates _ _ _
    · exact closeMode_withoutDuplicates s m _
    · split
      · exact alike_withoutDuplicates _ _ _
      · exact alike_withoutDuplicates _ ⟨s.stack.root, parents, s.stack.limit⟩ _
      · exact hadvance

end

/-! ### Runs without duplicates -/

/-- A run of steps in which duplicates are dropped behind each step. -/
inductive StepsOnce (g : CompiledGrammar) (src : Source) :
    ScanState → List (Option Token) → ScanState → Prop where
  | nil (s : ScanState) : StepsOnce g src s [] s
  | cons {s s' s'' : ScanState} {o : Option Token} {os : List (Option Token)} :
      Moves g src s o s' → StepsOnce g src s'.withoutDuplicates os s'' →
      StepsOnce g src s (o :: os) s''

/-- A step without duplicates is a step. -/
theorem moves_withoutDuplicates (hn : Numbered g.rules) (hs : s.stack.BelongsTo g)
    {o : Option Token} {t : ScanState} :
    (∃ s', Moves g src s.withoutDuplicates o s' ∧ s'.withoutDuplicates = t) ↔
      ∃ s', Moves g src s o s' ∧ s'.withoutDuplicates = t := by
  obtain ⟨hout, hstate⟩ := step_withoutDuplicates hn src hs
  constructor
  · rintro ⟨s', ⟨hpos, hstep⟩, rfl⟩
    rw [hstep] at hout hstate
    exact ⟨(step g src s).2, ⟨hpos, Prod.ext hout.symm rfl⟩, hstate.symm⟩
  · rintro ⟨s', ⟨hpos, hstep⟩, rfl⟩
    rw [hstep] at hout hstate
    exact ⟨(step g src s.withoutDuplicates).2, ⟨hpos, Prod.ext hout rfl⟩, hstate⟩

/-- A run without duplicates is a run. -/
theorem stepsOnce_iff (hn : Numbered g.rules) (hs : s.stack.BelongsTo g)
    {os : List (Option Token)} {t : ScanState} :
    StepsOnce g src s.withoutDuplicates os t ↔
      ∃ s', Steps g src s os s' ∧ s'.withoutDuplicates = t := by
  induction os generalizing s with
  | nil =>
    constructor
    · rintro ⟨⟩
      exact ⟨s, .nil s, rfl⟩
    · rintro ⟨s', ⟨⟩, rfl⟩
      exact .nil _
  | cons o os ih =>
    constructor
    · rintro (_ | ⟨hm, hrest⟩)
      obtain ⟨s₁, hm', heq⟩ := (moves_withoutDuplicates hn hs).mp ⟨_, hm, rfl⟩
      rw [← heq, ih (hm'.belongsTo hs)] at hrest
      obtain ⟨s', hsteps, ht⟩ := hrest
      exact ⟨s', .cons hm' hsteps, ht⟩
    · rintro ⟨s', _ | ⟨hm, hrest⟩, ht⟩
      obtain ⟨s₁, hm', heq⟩ := (moves_withoutDuplicates hn hs).mpr ⟨_, hm, rfl⟩
      refine .cons hm' ?_
      rw [heq, ih (hm.belongsTo hs)]
      exact ⟨s', hrest, ht⟩

/-! ### Modes that are entered -/

/-- A step leaves a stack that comes about by entering modes. -/
theorem Moves.pushed {o : Option Token} {s' : ScanState} (h : Moves g src s o s')
    (hs : s.stack.BelongsTo g) (hpushed : ModeStack.Pushed g maxDepth s.stack) :
    ModeStack.Pushed g maxDepth s'.stack := by
  have hchange := h.change hs
  cases o with
  | none =>
    cases hchange with
    | close count _ _ => exact hpushed.close count
  | some t =>
    cases hchange with
    | consume count _ _ _ => exact hpushed.close count
    | @enter r stop hr hopens hfree _ _ =>
      have hpush : s.stack.push r 0 = .ok (s.stack.enter r) := ModeStack.push_eq_ok.mpr ⟨hfree, rfl⟩
      exact .push hpushed hr hopens hpush

/-- So does a run from the start of a scan. -/
theorem Reaches.pushed (h : Reaches g maxDepth src s) : ModeStack.Pushed g maxDepth s.stack := by
  obtain ⟨os, hsteps⟩ := h
  have hboth : s.stack.BelongsTo g ∧ ModeStack.Pushed g maxDepth s.stack := by
    apply hsteps.preserves (P := fun s ↦ s.stack.BelongsTo g ∧ ModeStack.Pushed g maxDepth s.stack)
    · rintro s o s' ⟨hs, hpushed⟩ hm
      exact ⟨hm.belongsTo hs, hm.pushed hs hpushed⟩
    · exact ⟨start_belongsTo g maxDepth, .start⟩
  exact hboth.2

/-! ### Duplicates decide nothing -/

/-- What rules that apply more than once decide in a state of a scan: nothing. -/
structure DuplicatesDecideNothing (g : CompiledGrammar) (src : Source) (s : ScanState) :
    Prop where
  /-- With the first of each of its rules the innermost mode takes the same candidate everywhere,
  or none, or the search for it fails with the same error. -/
  candidate : ∀ pos,
    candidate? g src s.stack.top.withoutDuplicates pos = candidate? g src s.stack.top pos
  /-- The check for contradictions has examined the innermost mode with the rules that apply in
  it. -/
  checked : ∃ v : ModeVisit, v.IsMade g.rules ∧ v.key ∉ v.seen ∧ s.stack.top.EnteredAs g v.id ∧
    SameRules v.rules s.stack.top.visible
  /-- Whichever rules the check examines, they are the first of each of those that apply in a mode
  as it is entered, and decide what those decide. -/
  examined : ∀ v : ModeVisit, v.IsMade g.rules → ∃ visible, Entered g.rules v.id visible ∧
    ∀ m : Mode, m.visible = visible → m.withoutDuplicates.visible = uniqueRules v.rules ∧
      ∀ pos, candidate? g src m.withoutDuplicates pos = candidate? g src m pos
  /-- A step comes to the same if no mode has duplicates. -/
  step : Alike (step g src s.withoutDuplicates) (step g src s)
  /-- So does all that is left of the scan if duplicates are dropped behind each step: the tokens
  are the same and so are the states, but for the duplicates. -/
  run : ∀ os t, StepsOnce g src s.withoutDuplicates os t ↔
    ∃ s', Steps g src s os s' ∧ s'.withoutDuplicates = t

/-- Rules that are inherited more than once change nothing. In whatever state a scan is, of the
rules that apply in a mode the first of each decide what is taken. These are the rules that the
check for contradictions examines, while the lists of a scan grow the deeper a mode is entered from
within itself. -/
theorem duplicates_decide_nothing {gr : Grammar} (hg : compile gr = .ok g) {text : ByteArray}
    (hs : Reaches g maxDepth (Source.ofText text) s) :
    DuplicatesDecideNothing g (Source.ofText text) s := by
  obtain ⟨⟨n, hrules⟩, hcheck, -⟩ := compile_ok hg
  have hn := compileRules_numbered hrules
  have hbelongs := hs.belongsTo
  constructor
  case candidate =>
    intro pos
    exact candidate?_withoutDuplicates hn hbelongs.top.visible
  case checked =>
    obtain ⟨id, hentered⟩ := hs.pushed.enteredAs
    obtain ⟨v, hmade, hnew, rfl, hsame⟩ :=
      hentered.visible.examined hn (checkContradictions_eq_ok.mp hcheck)
    exact ⟨v, hmade, hnew, hentered, hsame⟩
  case examined =>
    intro v hv
    obtain ⟨visible, hentered, hsame⟩ := hv.entered hn
    refine ⟨visible, hentered, ?_⟩
    rintro m rfl
    refine ⟨hsame.symm, ?_⟩
    intro pos
    exact candidate?_withoutDuplicates hn hentered.isEntrance.within
  case step => exact step_withoutDuplicates hn _ hbelongs
  case run =>
    intro os t
    exact stepsOnce_iff hn hbelongs

/-- Inside two blocks the rules of a block apply twice, which changes nothing. -/
theorem duplicates_decide_nothing_nestedBlocks :
    ∃ g s, compile nestedBlocks = .ok g ∧ Reaches g 0 (Source.ofText "<<(".toUTF8) s ∧
      (uniqueRules s.stack.top.visible).length < s.stack.top.visible.length ∧
      DuplicatesDecideNothing g (Source.ofText "<<(".toUTF8) s := by
  obtain ⟨g, hg, htest⟩ := exists_compiled nestedBlocks
    (fun g ↦ (stateAfter? g (Source.ofText "<<(".toUTF8) 2 (start g 0)).any fun s ↦
      (uniqueRules s.stack.top.visible).length < s.stack.top.visible.length)
    (by decide +kernel)
  obtain ⟨s, hstate, htest⟩ := (Option.any_eq_true _ _).mp htest
  have hs : Reaches g 0 (Source.ofText "<<(".toUTF8) s := steps_of_stateAfter? hstate
  exact ⟨g, s, hg, hs, of_decide_eq_true htest, duplicates_decide_nothing hg hs⟩

end Scan

end CodeViewer
