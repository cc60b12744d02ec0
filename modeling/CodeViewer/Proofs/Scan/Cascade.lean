import CodeViewer.Proofs.Grammar.Places
import CodeViewer.Proofs.Scan.TopLevel

/-!
# Modes that end with the modes around them

A mode that has no end of its own closes where the mode around it does. Several such modes follow
the nearest one around them that has an end. Where it ends they are closed one after the other, and
it is closed behind them by its own end; everywhere else they all stay open.
-/

namespace CodeViewer

open Text (Source)

namespace ModeStack

/-- The innermost modes that end with the modes around them. -/
def followers (s : ModeStack) : List Mode := s.opened.takeWhile (·.spec.endsWithParent)

/-- The nearest open mode that does not end with the modes around it, unless this is the top
level. -/
def leader? (s : ModeStack) : Option Mode := s.opened.find? (!·.spec.endsWithParent)

variable {s : ModeStack} {m a : Mode} {parents : List Mode}

private theorem followers_cons (ho : s.opened = m :: parents)
    (hends : m.spec.endsWithParent = true) :
    s.followers = m :: (s.close 1).followers := by
  simp [followers, close, ho, hends]

private theorem leader?_cons (ho : s.opened = m :: parents) (hends : m.spec.endsWithParent = true) :
    s.leader? = (s.close 1).leader? := by
  simp [leader?, close, ho, hends]

private theorem followers_eq_nil (ho : s.opened = m :: parents)
    (hends : m.spec.endsWithParent = false) :
    s.followers = [] := by
  simp [followers, ho, hends]

private theorem opened_close_followers (h : s.leader? = some a) :
    ∃ rest, (s.close s.followers.length).opened = a :: rest := by
  obtain ⟨-, before, rest, ho, hbefore⟩ := List.find?_eq_some_iff_append.mp h
  refine ⟨rest, ?_⟩
  have hfollow : ∀ m ∈ before, m.spec.endsWithParent = true := by simpa using hbefore
  have hlead : a.spec.endsWithParent = false := by simpa using List.find?_some h
  have htake : s.followers = before := by
    rw [followers, ho, List.takeWhile_append_of_pos hfollow]
    simp [hlead]
  simp [close, htake, ho]

end ModeStack

/-- A mode has one end at most: it does not both have an end of its own and end with the modes
around it. -/
def Mode.OneEnd (m : Mode) : Prop := m.spec.endsWithParent = true → m.spec.finish = none

/-- The modes of a compiled grammar have one end at most. -/
theorem Mode.BelongsTo.oneEnd {gr : Grammar} {g : CompiledGrammar} {m : Mode}
    (hm : m.BelongsTo g) (hg : compile gr = .ok g) : m.OneEnd := by
  intro hends
  rcases hm.spec with hspec | ⟨r, hr, hspec⟩
  · obtain ⟨-, -, illegal, hroot⟩ := compile_ok hg
    rw [hspec, hroot]
    rfl
  · rw [hspec] at hends ⊢
    exact compile_finish_eq_none hg hr hends

namespace Scan

variable {g : CompiledGrammar} {src : Source} {s : ScanState} {m a : Mode} {parents : List Mode}
  {pos : Nat}

/-! ### Looking for the end of the modes around -/

/-- The modes around a mode end where the first of them that has an end does. -/
theorem parentEnds_eq (hone : ∀ p ∈ parents, p.OneEnd) :
    parentEnds src pos parents =
      match parents.find? (!·.spec.endsWithParent) with
      | none => .ok false
      | some a => (optionalAt? src a.spec.finish pos).map Option.isSome := by
  induction parents with
  | nil => rfl
  | cons p ps ih =>
    obtain ⟨hp, hps⟩ := List.forall_mem_cons.mp hone
    unfold parentEnds
    cases hends : p.spec.endsWithParent with
    | true =>
      simp only [hp hends, optionalAt?, hends, List.find?_cons, Bool.not_true]
      exact ih hps
    | false =>
      simp only [hends, List.find?_cons, Bool.not_false]
      cases optionalAt? src p.spec.finish pos with
      | error e => rfl
      | ok n? => cases n? <;> rfl

/-- What a step does in a mode that ends with the modes around it depends on the leader alone. -/
theorem step_of_follower (g : CompiledGrammar) (src : Source) (ho : s.stack.opened = m :: parents)
    (hends : m.spec.endsWithParent = true) (hone : ∀ p ∈ s.stack.opened, p.OneEnd) :
    step g src s =
      match s.stack.leader?.map (fun a ↦ optionalAt? src a.spec.finish s.pos) with
      | none => advance g src s m parents
      | some (.error e) => (.failed e, s)
      | some (.ok none) => advance g src s m parents
      | some (.ok (some _)) => (.silent, ⟨s.stack.close 1, s.pos⟩) := by
  rw [ho] at hone
  obtain ⟨hm, hparents⟩ := List.forall_mem_cons.mp hone
  have hleader : s.stack.leader? = parents.find? (!·.spec.endsWithParent) := by
    simp [ModeStack.leader?, ho, hends]
  have hclose : { s.stack with opened := parents } = s.stack.close 1 := by
    simp [ModeStack.close, ho]
  have hown : optionalAt? src m.spec.finish s.pos = .ok none := by
    rw [hm hends]
    rfl
  simp only [step, ho, hown, hends, ite_true, parentEnds_eq hparents, hleader, hclose]
  cases parents.find? (!·.spec.endsWithParent) with
  | none => rfl
  | some a =>
    simp only [Option.map_some]
    cases optionalAt? src a.spec.finish s.pos with
    | error e => rfl
    | ok n? => cases n? <;> rfl

/-! ### Where the leader ends -/

/-- Where the leader ends its followers are closed, one by each step. -/
theorem steps_close_followers (hone : ∀ p ∈ s.stack.opened, p.OneEnd) (hleft : s.pos < src.size)
    {n : Nat} (hlead : s.stack.leader? = some a)
    (hend : optionalAt? src a.spec.finish s.pos = .ok (some n)) :
    Steps g src s (List.replicate s.stack.followers.length none)
      ⟨s.stack.close s.stack.followers.length, s.pos⟩ := by
  induction hcount : s.stack.followers.length generalizing s with
  | zero => exact .nil s
  | succ k ih =>
    cases ho : s.stack.opened with
    | nil => simp [ModeStack.followers, ho] at hcount
    | cons m parents =>
      cases hends : m.spec.endsWithParent with
      | false =>
        rw [ModeStack.followers_eq_nil ho hends] at hcount
        cases hcount
      | true =>
        have hstep : step g src s = (.silent, ⟨s.stack.close 1, s.pos⟩) := by
          rw [step_of_follower g src ho hends hone]
          simp only [hlead, Option.map_some, hend]
        rw [ModeStack.followers_cons ho hends, List.length_cons, Nat.add_right_cancel_iff] at hcount
        have hrest : ∀ p ∈ (s.stack.close 1).opened, p.OneEnd :=
          fun p hp ↦ hone p (List.mem_of_mem_drop hp)
        have hsteps := ih (s := ⟨s.stack.close 1, s.pos⟩) hrest hleft
          (ModeStack.leader?_cons ho hends ▸ hlead) hend hcount
        rw [ModeStack.close_close, Nat.add_comm] at hsteps
        exact .cons ⟨hleft, hstep⟩ hsteps

/-! ### Where no mode ends -/

/-- A step closes no mode because it ends. The modes are left as they are, or the mode of a rule is
entered, or the innermost one is closed by a rule that is taken and says so; and a step that does
not fail consumes text. -/
structure NoneEnds (g : CompiledGrammar) (src : Source) (s : ScanState) : Prop where
  stack : (step g src s).2.stack = s.stack ∨
    (∃ r ∈ s.stack.top.visible, (step g src s).2.stack = s.stack.enter r) ∨
    ∃ c r, candidate? g src s.stack.top s.pos = .ok (some c) ∧ c.rule = some r ∧
      r.head.action = .emit true ∧ (step g src s).2.stack = s.stack.close 1
  consumes : ∀ o s', Moves g src s o s' → s.pos < s'.pos

private theorem emit_ne_silent (src : Source) (cls : Class) (start stop : Nat) :
    emit src cls start stop ≠ .silent := by
  unfold emit
  split <;> exact fun h ↦ nomatch h

private theorem enter_stack (src : Source) (s : ScanState) (r : CompiledRule) (stop : Nat) :
    (enter src s r stop).1 ≠ .silent ∧ ((enter src s r stop).2.stack = s.stack ∨
      (enter src s r stop).2.stack = s.stack.enter r) := by
  unfold enter
  cases hpush : s.stack.push r (src.offset s.pos) with
  | error e => exact ⟨nofun, .inl rfl⟩
  | ok stack =>
    obtain ⟨-, rfl⟩ := ModeStack.push_eq_ok.mp hpush
    simp only
    split
    · exact ⟨nofun, .inr rfl⟩
    · split
      · exact ⟨nofun, .inr rfl⟩
      · exact ⟨emit_ne_silent _ _ _ _, .inr rfl⟩

private theorem take_stack (src : Source) (s : ScanState) (c : Candidate) :
    (take src s c).1 ≠ .silent ∧ ((take src s c).2.stack = s.stack ∨
      (∃ r, c.rule = some r ∧ (take src s c).2.stack = s.stack.enter r) ∨
      ∃ r, c.rule = some r ∧ r.head.action = .emit true ∧
        (take src s c).2.stack = s.stack.close 1) := by
  unfold take
  cases hrule : c.rule with
  | none => exact ⟨emit_ne_silent _ _ _ _, .inl rfl⟩
  | some r =>
    cases haction : r.head.action with
    | enter mode =>
      simp only [haction]
      obtain ⟨hemits, hstack⟩ := enter_stack src s r (s.pos + c.length)
      exact ⟨hemits, hstack.imp_right fun h ↦ .inl ⟨r, rfl, h⟩⟩
    | emit endsParent =>
      simp only [haction]
      cases endsParent with
      | false => exact ⟨emit_ne_silent _ _ _ _, .inl rfl⟩
      | true =>
        simp only [ite_true]
        cases hpop : s.stack.pop with
        | error e => exact ⟨nofun, .inl rfl⟩
        | ok stack =>
          obtain ⟨-, rfl⟩ := ModeStack.pop_eq_ok.mp hpop
          exact ⟨emit_ne_silent _ _ _ _, .inr (.inr ⟨r, rfl, haction, rfl⟩)⟩

private theorem unmatched_stack (g : CompiledGrammar) (src : Source) (s : ScanState) (m : Mode)
    (parents : List Mode) : (unmatched g src s m parents).1 ≠ .silent ∧
      (unmatched g src s m parents).2.stack = s.stack := by
  unfold unmatched
  split
  · exact ⟨emit_ne_silent _ _ _ _, rfl⟩
  · split
    · exact ⟨nofun, rfl⟩
    · exact ⟨emit_ne_silent _ _ _ _, rfl⟩

/-- A step that looks for a candidate closes no mode because it ends. -/
theorem noneEnds_of_advance (hs : s.stack.BelongsTo g) (hleft : s.pos < src.size)
    (h : step g src s = advance g src s s.stack.top parents) : NoneEnds g src s := by
  have hadvance : (advance g src s s.stack.top parents).1 ≠ .silent ∧
      ((advance g src s s.stack.top parents).2.stack = s.stack ∨
        (∃ r ∈ s.stack.top.visible,
          (advance g src s s.stack.top parents).2.stack = s.stack.enter r) ∨
        ∃ c r, candidate? g src s.stack.top s.pos = .ok (some c) ∧ c.rule = some r ∧
          r.head.action = .emit true ∧
          (advance g src s s.stack.top parents).2.stack = s.stack.close 1) := by
    unfold advance
    cases hc : candidate? g src s.stack.top s.pos with
    | error e => exact ⟨nofun, .inl rfl⟩
    | ok c? =>
      cases c? with
      | none =>
        obtain ⟨hemits, hstack⟩ := unmatched_stack g src s s.stack.top parents
        exact ⟨hemits, .inl hstack⟩
      | some c =>
        have hmatch := (candidate?_yields hs.top (Nat.le_of_lt hleft)).ok hc c rfl
        obtain ⟨hemits, hstack⟩ := take_stack src s c
        refine ⟨hemits, ?_⟩
        rcases hstack with hstack | ⟨r, hr, hstack⟩ | ⟨r, hr, haction, hstack⟩
        · exact .inl hstack
        · exact .inr (.inl ⟨r, (hmatch.rule r hr).1, hstack⟩)
        · exact .inr (.inr ⟨c, r, rfl, hr, haction, hstack⟩)
  rw [← h] at hadvance
  refine ⟨hadvance.2, fun o s' hm ↦ ?_⟩
  have hchange := hm.change hs
  cases o with
  | none => exact absurd (congrArg Prod.fst hm.2) hadvance.1
  | some t =>
    cases hchange with
    | consume _ hlt _ _ => exact hlt
    | enter _ _ _ hlt _ => exact hlt

/-! ### The cascade -/

/-- Modes that end with the modes around them close as one cascade. Where the nearest mode around
them that has an end of its own ends, they are closed one after the other, and nothing is emitted
or consumed in between; then it is closed by its own end, and the mode around it if it says so. If
there is no such mode or its end is not found, no mode is closed because it ends. -/
theorem followers_close_with_leader {gr : Grammar} (hg : compile gr = .ok g) {maxDepth : Int}
    {text : ByteArray} (hs : Reaches g maxDepth (Source.ofText text) s)
    (hleft : s.pos < (Source.ofText text).size)
    (htop : s.stack.top.spec.endsWithParent = true) :
    (∀ a n, s.stack.leader? = some a →
      optionalAt? (Source.ofText text) a.spec.finish s.pos = .ok (some n) →
      Steps g (Source.ofText text) s (List.replicate s.stack.followers.length none)
        ⟨s.stack.close s.stack.followers.length, s.pos⟩ ∧
      (s.stack.close s.stack.followers.length).top = a ∧
      s.stack.followers.length + a.closing ≤ s.stack.depth ∧
      step g (Source.ofText text) ⟨s.stack.close s.stack.followers.length, s.pos⟩ =
        if n = 0 || a.spec.returnEnd then
          (.silent, ⟨s.stack.close (s.stack.followers.length + a.closing), s.pos⟩)
        else
          (emit (Source.ofText text) (if a.spec.excludeEnd then Class.punctuation else a.spec.cls)
            s.pos (s.pos + n),
            ⟨s.stack.close (s.stack.followers.length + a.closing), s.pos + n⟩)) ∧
    ((∀ a, s.stack.leader? = some a →
        optionalAt? (Source.ofText text) a.spec.finish s.pos = .ok none) →
      NoneEnds g (Source.ofText text) s) ∧
    ∀ a e, s.stack.leader? = some a →
      optionalAt? (Source.ofText text) a.spec.finish s.pos = .error e →
      step g (Source.ofText text) s = (.failed e, s) := by
  obtain ⟨⟨count, hrules⟩, -, illegal, hroot⟩ := compile_ok hg
  have hbelongs := hs.belongsTo
  have hone : ∀ p ∈ s.stack.opened, p.OneEnd := fun p hp ↦ (hbelongs.opened p hp).oneEnd hg
  obtain ⟨parents, ho⟩ : ∃ parents, s.stack.opened = s.stack.top :: parents := by
    cases ho : s.stack.opened with
    | nil =>
      simp only [ModeStack.top, ho, List.headD_nil, hbelongs.root, hroot] at htop
      cases htop
    | cons m parents => exact ⟨parents, by simp [ModeStack.top, ho]⟩
  have hstep := step_of_follower g (Source.ofText text) ho htop hone
  refine ⟨fun a n hlead hend ↦ ?_, fun hnone ↦ ?_, fun a e hlead herror ↦ ?_⟩
  · obtain ⟨rest, hrest⟩ := ModeStack.opened_close_followers hlead
    have hsh := (hs.sheltered (compileRules_top hrules)).close hbelongs (compileRules_top hrules)
      s.stack.followers.length
    obtain ⟨hclosing, hclose⟩ := closeMode_eq
      (s := ⟨s.stack.close s.stack.followers.length, s.pos⟩) (Source.ofText text) n hsh hrest
    have hsteps := steps_close_followers (g := g) hone hleft hlead hend
    refine ⟨hsteps, by simp [ModeStack.top, hrest], ?_, ?_⟩
    · rw [ModeStack.depth_close] at hclosing
      have hpositive : 0 < a.closing := by
        unfold Mode.closing
        split <;> omega
      omega
    · simp only [step, hrest, hend]
      rw [hclose, ModeStack.close_close]
  · apply noneEnds_of_advance hbelongs hleft
    rw [hstep]
    cases hlead : s.stack.leader? with
    | none => rfl
    | some a => simp only [Option.map_some, hnone a hlead]
  · rw [hstep]
    simp only [hlead, Option.map_some, herror]

/-- A grammar of files of blocks, in which modes stand that end with the block. The end of a block
is the end of the file. -/
def followingBlocks : Grammar :=
  { name := "following"
    rules :=
      [.mk { cls := "file", literal := "@", finish := "#" }
        (some
          [.mk { cls := "block", literal := "<", finish := ">", endsParent := true }
            (some
              [.mk { cls := "outer", literal := "(", endsWithParent := true }
                (some [.mk { cls := "inner", literal := "[", endsWithParent := true } none])])])] }

/-- A file with a block in which the two modes are open where it ends. -/
def followingText : ByteArray := "@<([>".toUTF8

/-- Two modes that follow a block are closed with it, and the file around it as well. -/
theorem followers_close_with_leader_followingBlocks :
    ∃ g, compile followingBlocks = .ok g ∧ ∃ s, Reaches g 0 (Source.ofText followingText) s ∧
      s.pos < (Source.ofText followingText).size ∧ s.stack.top.spec.endsWithParent = true ∧
      s.stack.followers.length = 2 ∧
      Steps g (Source.ofText followingText) s [none, none] ⟨s.stack.close 2, s.pos⟩ ∧
      step g (Source.ofText followingText) ⟨s.stack.close 2, s.pos⟩ =
        (emit (Source.ofText followingText) "block" s.pos (s.pos + 1),
          ⟨s.stack.close 4, s.pos + 1⟩) := by
  obtain ⟨g, hg, htest⟩ := exists_compiled followingBlocks
    (fun g ↦ (stateAfter? g (Source.ofText followingText) 4 (start g 0)).any fun s ↦
      s.pos < (Source.ofText followingText).size && s.stack.top.spec.endsWithParent &&
        s.stack.followers.length == 2 &&
        s.stack.leader?.any fun a ↦ a.spec.cls == "block" && a.closing == 2 &&
          !a.spec.returnEnd && !a.spec.excludeEnd &&
          optionalAt? (Source.ofText followingText) a.spec.finish s.pos = .ok (some 1))
    (by decide +kernel)
  obtain ⟨s, hstate, htest⟩ := (Option.any_eq_true _ _).mp htest
  simp only [Bool.and_eq_true, decide_eq_true_eq, beq_iff_eq] at htest
  obtain ⟨⟨⟨hleft, htop⟩, hcount⟩, htest⟩ := htest
  obtain ⟨a, hlead, htest⟩ := (Option.any_eq_true _ _).mp htest
  simp only [Bool.and_eq_true, decide_eq_true_eq, beq_iff_eq, Bool.not_eq_true'] at htest
  obtain ⟨⟨⟨⟨hcls, hclosing⟩, hkept⟩, hincluded⟩, hend⟩ := htest
  have hs : Reaches g 0 (Source.ofText followingText) s := steps_of_stateAfter? hstate
  obtain ⟨hcascade, -, -⟩ := followers_close_with_leader hg hs hleft htop
  obtain ⟨hsteps, -, -, hstep⟩ := hcascade a 1 hlead hend
  rw [hcount] at hsteps hstep
  refine ⟨g, hg, s, hs, hleft, htop, hcount, hsteps, ?_⟩
  rw [hstep, hclosing, hkept, hincluded, hcls]
  rfl

end Scan

end CodeViewer
