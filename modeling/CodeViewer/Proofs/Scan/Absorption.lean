import CodeViewer.Proofs.Scan.Tiling
import CodeViewer.Proofs.Scan.TopLevel

/-!
# Absorbed text is merged unknown text

A mode that absorbs text nothing matches looks ahead for the next place where something happens.
It finds the very place up to which the same mode, absorbing nothing, would emit one unknown
character after the other, and gives all of them one token.
-/

namespace CodeViewer

open Text (Source)

/-- The mode, absorbing nothing. -/
def Mode.withoutAbsorbing (m : Mode) : Mode := { m with spec := { m.spec with absorb := false } }

/-- The stack, whose innermost mode absorbs nothing. -/
def ModeStack.withoutAbsorbing (s : ModeStack) : ModeStack :=
  match s.opened with
  | [] => { s with root := s.root.withoutAbsorbing }
  | m :: rest => { s with opened := m.withoutAbsorbing :: rest }

namespace Scan

variable {g : CompiledGrammar} {src : Source} {m : Mode} {parents : List Mode} {s : ScanState}
  {pos stop : Nat}

/-! ### Places where nothing happens -/

/-- Nothing happens at a place: no mode ends there and no candidate is found. -/
structure Quiet (g : CompiledGrammar) (src : Source) (m : Mode) (parents : List Mode)
    (pos : Nat) : Prop where
  finish : optionalAt? src m.spec.finish pos = .ok none
  parents : (if m.spec.endsWithParent then parentEnds src pos parents else .ok false) = .ok false
  candidate : candidate? g src m pos = .ok none

private theorem Quiet.withoutAbsorbing (h : Quiet g src m parents pos) :
    Quiet g src m.withoutAbsorbing parents pos :=
  ⟨h.finish, h.parents, h.candidate⟩

/-- Where nothing happens a step consumes text that nothing matches. -/
theorem Quiet.step_eq (h : Quiet g src m parents s.pos) (ho : s.stack.opened = m :: parents) :
    step g src s = unmatched g src s m parents := by
  simp only [step, ho, h.finish, h.parents, advance, h.candidate]

/-- Looking ahead asks what a step asks, in the same order. -/
theorem happensAt_eq : happensAt g src m parents pos =
    match optionalAt? src m.spec.finish pos with
    | .error e => .error e
    | .ok (some _) => .ok true
    | .ok none =>
      match (if m.spec.endsWithParent then parentEnds src pos parents else .ok false) with
      | .error e => .error e
      | .ok true => .ok true
      | .ok false => (candidate? g src m pos).map Option.isSome := by
  unfold happensAt
  cases optionalAt? src m.spec.finish pos with
  | error e => rfl
  | ok n? =>
    cases n? with
    | some n => rfl
    | none =>
      cases m.spec.endsWithParent with
      | false => cases candidate? g src m pos <;> rfl
      | true =>
        cases parentEnds src pos parents with
        | error e => rfl
        | ok ended =>
          cases ended with
          | true => rfl
          | false => cases candidate? g src m pos <;> rfl

/-- Looking ahead finds nothing only where nothing happens. -/
theorem quiet_of_happensAt (h : happensAt g src m parents pos = .ok false) :
    Quiet g src m parents pos := by
  rw [happensAt_eq] at h
  split at h
  · cases h
  · cases h
  · next hfinish =>
    split at h
    · cases h
    · cases h
    · next hparents =>
      refine ⟨hfinish, hparents, ?_⟩
      cases hc : candidate? g src m pos with
      | error e =>
        rw [hc] at h
        cases h
      | ok c? =>
        cases c? with
        | none => rfl
        | some c =>
          rw [hc] at h
          cases h

/-! ### Places where something happens -/

/-- A step closes modes, or it takes a candidate. -/
inductive ClosesOrTakes (g : CompiledGrammar) (src : Source) (s : ScanState) : Prop where
  | closes (count : Nat) : 0 < count → count ≤ s.stack.depth →
      (step g src s).2.stack = s.stack.close count → ClosesOrTakes g src s
  | takes (c : Candidate) : candidate? g src s.stack.top s.pos = .ok (some c) →
      step g src s = take src s c → ClosesOrTakes g src s

/-- Where looking ahead finds something a step closes modes or takes a candidate. -/
theorem closesOrTakes_of_happensAt (hsh : s.stack.Sheltered)
    (ho : s.stack.opened = m :: parents)
    (h : happensAt g src m parents s.pos = .ok true) : ClosesOrTakes g src s := by
  have htop : s.stack.top = m := by simp [ModeStack.top, ho]
  rw [happensAt_eq] at h
  split at h
  · cases h
  · next n hfinish =>
    obtain ⟨hcount, hclose⟩ := closeMode_eq src n hsh ho
    refine .closes m.closing ?_ hcount ?_
    · unfold Mode.closing
      split <;> omega
    · simp only [step, ho, hfinish, hclose]
      split <;> rfl
  · next hfinish =>
    split at h
    · cases h
    · next hparents =>
      refine .closes 1 Nat.one_pos (by simp [ModeStack.depth, ho]) ?_
      simp [step, ho, hfinish, hparents, ModeStack.close]
    · next hparents =>
      cases hc : candidate? g src m s.pos with
      | error e =>
        rw [hc] at h
        cases h
      | ok c? =>
        cases c? with
        | none =>
          rw [hc] at h
          cases h
        | some c =>
          refine .takes c (htop ▸ hc) ?_
          simp only [step, ho, hfinish, hparents, advance, hc]

/-! ### Absorbed text -/

/-- Nothing happens in absorbed text, nor is any of its characters stray, and it ends where the
text does, at a stray character or where something happens. -/
theorem absorbedEnd_eq_ok {fuel : Nat} (h : absorbedEnd g src m parents fuel pos = .ok stop)
    (hpos : pos ≤ src.size) (hfuel : src.size ≤ pos + fuel) :
    (pos ≤ stop ∧ stop ≤ src.size) ∧
      (∀ i, pos ≤ i → i < stop → strayAt src i = false ∧ Quiet g src m parents i) ∧
      (stop = src.size ∨ strayAt src stop = true ∨ happensAt g src m parents stop = .ok true) := by
  induction fuel generalizing pos with
  | zero =>
    cases h
    exact ⟨⟨Nat.le_refl _, hpos⟩, fun i hi hlt ↦ by omega, .inl (by omega)⟩
  | succ fuel ih =>
    unfold absorbedEnd at h
    split at h
    · next hleft =>
      simp only [Bool.and_eq_true, decide_eq_true_eq, Bool.not_eq_true'] at hleft
      obtain ⟨happens, hhappens, h⟩ := bind_eq_ok.mp h
      cases happens with
      | true =>
        cases h
        exact ⟨⟨Nat.le_refl _, hpos⟩, fun i hi hlt ↦ by omega, .inr (.inr hhappens)⟩
      | false =>
        obtain ⟨hbounds, hquiet, hend⟩ := ih h hleft.1 (by omega)
        refine ⟨⟨by omega, hbounds.2⟩, fun i hi hlt ↦ ?_, hend⟩
        rcases Nat.eq_or_lt_of_le hi with rfl | hi
        · exact ⟨hleft.2, quiet_of_happensAt hhappens⟩
        · exact hquiet i hi hlt
    · next hover =>
      cases h
      refine ⟨⟨Nat.le_refl _, hpos⟩, fun i hi hlt ↦ by omega, ?_⟩
      simp only [Bool.and_eq_true, decide_eq_true_eq, Bool.not_eq_true', not_and,
        Bool.not_eq_false] at hover
      rcases Nat.eq_or_lt_of_le hpos with heq | hlt
      · exact .inl heq
      · exact .inr (.inl (hover hlt))

/-- Looking ahead starts behind the first character. Where nothing happens there, and it is not
stray, the same is true of the absorbed text as a whole. -/
theorem Quiet.absorbed (h : Quiet g src m parents pos) (hleft : pos < src.size)
    (hplain : strayAt src pos = false)
    (hend : absorbedEnd g src m parents (src.size - (pos + 1)) (pos + 1) = .ok stop) :
    (pos < stop ∧ stop ≤ src.size) ∧
      (∀ i, pos ≤ i → i < stop → strayAt src i = false ∧ Quiet g src m parents i) ∧
      (stop = src.size ∨ strayAt src stop = true ∨ happensAt g src m parents stop = .ok true) := by
  obtain ⟨⟨hlt, hle⟩, hrest, hmaximal⟩ := absorbedEnd_eq_ok hend (by omega) (by omega)
  refine ⟨⟨hlt, hle⟩, fun i hi hstop ↦ ?_, hmaximal⟩
  rcases Nat.eq_or_lt_of_le hi with rfl | hi
  · exact ⟨hplain, h⟩
  · exact hrest i hi hstop

/-- What a mode absorbs, it emits as one token of its class. -/
theorem unmatched_absorbs_iff (habsorb : m.spec.absorb = true)
    (hplain : strayAt src s.pos = false) :
    unmatched g src s m parents =
        (.emitted (token src m.spec.cls s.pos stop), ⟨s.stack, stop⟩) ↔
      absorbedEnd g src m parents (src.size - (s.pos + 1)) (s.pos + 1) = .ok stop ∧
        stop ≤ src.size := by
  simp only [unmatched, habsorb, hplain, Bool.not_true, Bool.or_self, Bool.false_eq_true,
    ite_false]
  cases absorbedEnd g src m parents (src.size - (s.pos + 1)) (s.pos + 1) with
  | error e => simp
  | ok stop' =>
    simp only [emit, Prod.mk.injEq, ScanState.mk.injEq, true_and, Except.ok.injEq]
    constructor
    · rintro ⟨hemit, rfl⟩
      refine ⟨rfl, Nat.not_lt.mp fun hlt ↦ ?_⟩
      rw [if_pos hlt] at hemit
      cases hemit
    · rintro ⟨rfl, hle⟩
      exact ⟨if_neg (Nat.not_lt.mpr hle), rfl⟩

private theorem Quiet.moves_unknown (h : Quiet g src m parents s.pos)
    (ho : s.stack.opened = m :: parents) (habsorb : m.spec.absorb = false)
    (hpos : s.pos < src.size) :
    Moves g src s (some (token src Class.unknown s.pos (s.pos + 1))) ⟨s.stack, s.pos + 1⟩ := by
  refine ⟨hpos, ?_⟩
  rw [h.step_eq ho]
  simp [unmatched, habsorb, emit, outcomeOf, Nat.not_lt.mpr (Nat.succ_le_of_lt hpos)]

/-! ### Unknown characters -/

/-- The tokens of the single unknown characters from one place up to another. -/
def unknownTokens (src : Source) (start stop : Nat) : List Token :=
  (List.range' start (stop - start)).map (fun i ↦ token src Class.unknown i (i + 1))

private theorem unknownTokens_self (src : Source) (pos : Nat) : unknownTokens src pos pos = [] := by
  simp [unknownTokens]

private theorem unknownTokens_of_lt (src : Source) (h : pos < stop) :
    unknownTokens src pos stop =
      token src Class.unknown pos (pos + 1) :: unknownTokens src (pos + 1) stop := by
  have hlength : stop - pos = stop - (pos + 1) + 1 := by omega
  simp [unknownTokens, hlength, List.range'_succ]

private theorem length_unknownTokens (src : Source) (start stop : Nat) :
    (unknownTokens src start stop).length = stop - start := by
  simp [unknownTokens]

/-- Unknown characters make up the text they stand in. -/
theorem joinedText_unknownTokens (text : ByteArray) {start stop : Nat} (hle : start ≤ stop)
    (hstop : stop ≤ (Source.ofText text).size) :
    joinedText (unknownTokens (Source.ofText text) start stop) =
      (Source.ofText text).slice start stop := by
  induction hlength : stop - start generalizing start with
  | zero =>
    obtain rfl : start = stop := by omega
    rw [unknownTokens_self]
    exact ByteArray.extract_same.symm
  | succ n ih =>
    have hlt : start < stop := by omega
    rw [unknownTokens_of_lt _ hlt]
    change (Source.ofText text).slice start (start + 1) ++
      joinedText (unknownTokens (Source.ofText text) (start + 1) stop) = _
    rw [ih (by omega) (by omega)]
    have hfirst := Source.offset_lt_offset text (Nat.lt_succ_self start) (by omega)
    have hrest : (Source.ofText text).offset (start + 1) ≤ (Source.ofText text).offset stop := by
      rcases Nat.lt_or_eq_of_le (Nat.succ_le_of_lt hlt) with hlt | rfl
      · exact Nat.le_of_lt (Source.offset_lt_offset text hlt hstop)
      · exact Nat.le_refl _
    exact (ByteArray.extract_eq_extract_append_extract _ (Nat.le_of_lt hfirst) hrest).symm

/-- A mode that absorbs nothing emits characters that nothing matches one by one. -/
theorem steps_unknown {stack : ModeStack} {start : Nat}
    (hquiet : ∀ i, start ≤ i → i < stop → Quiet g src m parents i)
    (ho : stack.opened = m :: parents) (habsorb : m.spec.absorb = false) (hle : start ≤ stop)
    (hstop : stop ≤ src.size) :
    Steps g src ⟨stack, start⟩ ((unknownTokens src start stop).map some) ⟨stack, stop⟩ := by
  induction hlength : stop - start generalizing start with
  | zero =>
    obtain rfl : start = stop := by omega
    rw [unknownTokens_self]
    exact .nil _
  | succ n ih =>
    have hlt : start < stop := by omega
    rw [unknownTokens_of_lt _ hlt]
    have hpos : start < src.size := by omega
    have hrest (i : Nat) (hi : start + 1 ≤ i) (hi' : i < stop) : Quiet g src m parents i :=
      hquiet i (by omega) hi'
    have hfirst : Quiet g src m parents start := hquiet start (Nat.le_refl _) hlt
    have hlater : stop - (start + 1) = n := by omega
    refine .cons (Quiet.moves_unknown (s := ⟨stack, start⟩) hfirst ho habsorb hpos) ?_
    exact ih hrest hlt hlater

/-! ### Absorbing and not absorbing -/

/-- A step takes the branch in which the innermost mode absorbs text, and absorbs it up to
`stop`. -/
structure Absorbs (g : CompiledGrammar) (src : Source) (s : ScanState) (stop : Nat) : Prop where
  left : s.pos < src.size
  unended : ∀ m parents, s.stack.opened = m :: parents →
    optionalAt? src m.spec.finish s.pos = .ok none ∧
      (if m.spec.endsWithParent then parentEnds src s.pos parents else .ok false) = .ok false
  unmatched : candidate? g src s.stack.top s.pos = .ok none
  absorbs : s.stack.top.spec.absorb = true
  plain : strayAt src s.pos = false
  emits : step g src s =
    (.emitted (token src s.stack.top.spec.cls s.pos stop), ⟨s.stack, stop⟩)

/-- Where nothing happens a mode absorbs text up to the place that looking ahead finds. -/
theorem Quiet.absorbs (h : Quiet g src m parents s.pos) (ho : s.stack.opened = m :: parents)
    (habsorb : m.spec.absorb = true) (hleft : s.pos < src.size) (hplain : strayAt src s.pos = false)
    (hend : absorbedEnd g src m parents (src.size - (s.pos + 1)) (s.pos + 1) = .ok stop)
    (hstop : stop ≤ src.size) : Absorbs g src s stop := by
  have htop : s.stack.top = m := by simp [ModeStack.top, ho]
  refine ⟨hleft, fun m' parents' ho' ↦ ?_, htop ▸ h.candidate, htop ▸ habsorb, hplain, ?_⟩
  · obtain ⟨rfl, rfl⟩ := List.cons.inj (ho.symm.trans ho')
    exact ⟨h.finish, h.parents⟩
  · rw [h.step_eq ho, htop]
    exact (unmatched_absorbs_iff habsorb hplain).mpr ⟨hend, hstop⟩

/-- Absorbing is merging. Where a step of a scan absorbs text into one token, the same mode, if it
absorbed nothing, would emit each of its characters as an unknown one, leave all modes open and
come to the same place; the token holds their texts. The text ends where the whole text does, at a
stray character or where the next step closes modes or takes a candidate. -/
theorem absorbing_merges_unknowns {gr : Grammar} {g : CompiledGrammar} (hg : compile gr = .ok g)
    {maxDepth : Int} {text : ByteArray} {s : ScanState} {stop : Nat}
    (hs : Reaches g maxDepth (Source.ofText text) s) (h : Absorbs g (Source.ofText text) s stop) :
    (s.pos < stop ∧ stop ≤ (Source.ofText text).size) ∧
      (∀ i, s.pos ≤ i → i < stop →
        Moves g (Source.ofText text) ⟨s.stack.withoutAbsorbing, i⟩
          (some (token (Source.ofText text) Class.unknown i (i + 1)))
          ⟨s.stack.withoutAbsorbing, i + 1⟩) ∧
      Steps g (Source.ofText text) ⟨s.stack.withoutAbsorbing, s.pos⟩
        ((unknownTokens (Source.ofText text) s.pos stop).map some)
        ⟨s.stack.withoutAbsorbing, stop⟩ ∧
      (unknownTokens (Source.ofText text) s.pos stop).length = stop - s.pos ∧
      joinedText (unknownTokens (Source.ofText text) s.pos stop) =
        (token (Source.ofText text) s.stack.top.spec.cls s.pos stop).text ∧
      (stop = (Source.ofText text).size ∨ strayAt (Source.ofText text) stop = true ∨
        ClosesOrTakes g (Source.ofText text) ⟨s.stack, stop⟩) := by
  obtain ⟨⟨n, hrules⟩, -, illegal, hroot⟩ := compile_ok hg
  have hsh : s.stack.Sheltered := hs.sheltered (compileRules_top hrules)
  cases ho : s.stack.opened with
  | nil =>
    -- The top level absorbs nothing.
    have htop : s.stack.top.spec = rootSpec illegal := by
      simp [ModeStack.top, ho, hs.belongsTo.root, hroot]
    have habsorbs := h.absorbs
    rw [htop] at habsorbs
    cases habsorbs
  | cons m parents =>
    have htop : s.stack.top = m := by simp [ModeStack.top, ho]
    obtain ⟨hfinish, hparents⟩ := h.unended m parents ho
    have hfirst : Quiet g (Source.ofText text) m parents s.pos :=
      ⟨hfinish, hparents, htop ▸ h.unmatched⟩
    have hemits := h.emits
    rw [hfirst.step_eq ho, htop] at hemits
    obtain ⟨hend, hstop⟩ := (unmatched_absorbs_iff (htop ▸ h.absorbs) h.plain).mp hemits
    have hleft := h.left
    obtain ⟨⟨hlt, -⟩, hrest, hmaximal⟩ := absorbedEnd_eq_ok hend (by omega) (by omega)
    have hquiet (i : Nat) (hi : s.pos ≤ i) (hi' : i < stop) :
        Quiet g (Source.ofText text) m.withoutAbsorbing parents i := by
      rcases Nat.eq_or_lt_of_le hi with rfl | hi
      · exact hfirst.withoutAbsorbing
      · exact (hrest i hi hi').2.withoutAbsorbing
    have ho' : s.stack.withoutAbsorbing.opened = m.withoutAbsorbing :: parents := by
      simp [ModeStack.withoutAbsorbing, ho]
    refine ⟨⟨by omega, hstop⟩, fun i hi hi' ↦ ?_, ?_, length_unknownTokens _ _ _,
      joinedText_unknownTokens text (by omega) hstop, ?_⟩
    · have hpos : i < (Source.ofText text).size := by omega
      exact (hquiet i hi hi').moves_unknown (s := ⟨_, i⟩) ho' rfl hpos
    · exact steps_unknown hquiet ho' rfl (by omega) hstop
    · rcases hmaximal with hover | hstray | hhappens
      · exact .inl hover
      · exact .inr (.inl hstray)
      · exact .inr (.inr (closesOrTakes_of_happensAt (s := ⟨s.stack, stop⟩) hsh ho hhappens))

/-- A grammar of blocks that absorb all text up to their end. -/
def absorbingBlocks : Grammar :=
  { name := "absorbing"
    rules :=
      [.mk { cls := "block", literal := "<", finish := ">", noInherit := true,
             absorbUnmatched := true } none] }

/-- A text with a block of two characters. -/
private def blockText : Source := Source.ofText "<ab>".toUTF8

/-- Two characters in a block are absorbed up to its end, and would be unknown one by one. -/
theorem absorbing_merges_unknowns_absorbingBlocks :
    ∃ g, compile absorbingBlocks = .ok g ∧ ∃ s, Reaches g 0 (Source.ofText "<ab>".toUTF8) s ∧
      Absorbs g (Source.ofText "<ab>".toUTF8) s 3 ∧
      Steps g (Source.ofText "<ab>".toUTF8) ⟨s.stack.withoutAbsorbing, s.pos⟩
        ((unknownTokens (Source.ofText "<ab>".toUTF8) s.pos 3).map some)
        ⟨s.stack.withoutAbsorbing, 3⟩ ∧
      (unknownTokens (Source.ofText "<ab>".toUTF8) s.pos 3).length = 3 - s.pos := by
  obtain ⟨g, hg, htest⟩ := exists_compiled absorbingBlocks
    (fun g ↦
      let s := (step g blockText (start g 0)).2
      !hasFailed (step g blockText (start g 0)).1 && s.pos < blockText.size &&
        !strayAt blockText s.pos &&
        match s.stack.opened with
        | [] => false
        | m :: parents =>
          m.spec.absorb && happensAt g blockText m parents s.pos = .ok false &&
            absorbedEnd g blockText m parents (blockText.size - (s.pos + 1)) (s.pos + 1) = .ok 3)
    (by decide +kernel)
  simp only [Bool.and_eq_true, Bool.not_eq_true', decide_eq_true_eq] at htest
  obtain ⟨⟨⟨hstep, hpos⟩, hplain⟩, htest⟩ := htest
  have hstart : (start g 0).pos < blockText.size := by
    change 0 < blockText.size
    decide +kernel
  obtain ⟨o, hm⟩ := exists_moves hstart hstep
  have hs : Reaches g 0 blockText (step g blockText (start g 0)).2 := ⟨[o], .cons hm (.nil _)⟩
  have habsorbs : Absorbs g blockText (step g blockText (start g 0)).2 3 := by
    generalize (step g blockText (start g 0)).2 = s at hpos hplain htest
    split at htest
    · cases htest
    · next m parents ho =>
      simp only [Bool.and_eq_true, decide_eq_true_eq] at htest
      obtain ⟨⟨habsorb, hnothing⟩, hend⟩ := htest
      have hquiet : Quiet g blockText m parents s.pos := quiet_of_happensAt hnothing
      exact hquiet.absorbs ho habsorb hpos hplain hend (by decide +kernel)
  obtain ⟨-, -, hsteps, hlength, -⟩ := absorbing_merges_unknowns hg hs habsorbs
  exact ⟨g, hg, _, hs, habsorbs, hsteps, hlength⟩

end Scan

end CodeViewer
