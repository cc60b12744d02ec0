import CodeViewer.Proofs.Scan.Absorption
import CodeViewer.Proofs.Text.Encoded

/-!
# Stray characters

A mode that absorbs text leaves stray characters alone: a byte that starts no character, and a
control character other than white space, is unknown even there. The scan sees such a byte as
U+FFFD, so that a real U+FFFD is taken for one; every other character is absorbed.
-/

namespace CodeViewer

open Text (Source Piece)

/-! ### Stray pieces -/

/-- A control character other than white space, or a byte that starts no character. -/
def Text.Piece.isStray : Piece → Bool
  | .char c => Unicode.isControl c && !Unicode.isSpace c
  | .stray _ => true

/-- The piece that the character at an index is read from. -/
def Text.Source.piece (src : Source) (k : Nat) : Piece := Text.pieceAt src.text (src.offset k)

namespace Scan

private theorem isStray_toChar (p : Piece) :
    isStray p.toChar = true ↔ p.isStray = true ∨ p = .char Text.replacement := by
  cases p with
  | char c => simp [isStray, Piece.isStray, Piece.toChar, or_comm]
  | stray b => simp [isStray, Piece.isStray, Piece.toChar]

variable {g : CompiledGrammar} {src : Source} {text : ByteArray} {m : Mode} {parents : List Mode}
  {s : ScanState} {pos : Nat}

/-- A stray character stands where a stray piece or a real U+FFFD does. -/
theorem strayAt_ofText (hpos : pos < (Source.ofText text).size) :
    strayAt (Source.ofText text) pos = true ↔
      ((Source.ofText text).piece pos).isStray = true ∨
        (Source.ofText text).piece pos = .char Text.replacement := by
  rw [strayAt, Source.getElem?_chars hpos, Option.any_some]
  exact isStray_toChar _

/-! ### Looking ahead -/

/-- Looking ahead fails where looking for anything that happens does. Up to there nothing happens,
and none of the characters is stray. -/
theorem absorbedEnd_eq_error {fuel : Nat} {e : ScanError}
    (h : absorbedEnd g src m parents fuel pos = .error e) :
    ∃ i, (pos ≤ i ∧ i < src.size) ∧ strayAt src i = false ∧
      (∀ j, pos ≤ j → j < i → strayAt src j = false ∧ Quiet g src m parents j) ∧
      happensAt g src m parents i = .error e := by
  induction fuel generalizing pos with
  | zero => cases h
  | succ fuel ih =>
    unfold absorbedEnd at h
    split at h
    · next hleft =>
      simp only [Bool.and_eq_true, decide_eq_true_eq, Bool.not_eq_true'] at hleft
      cases hhappens : happensAt g src m parents pos with
      | error e' =>
        rw [hhappens] at h
        cases h
        exact ⟨pos, ⟨Nat.le_refl _, hleft.1⟩, hleft.2, fun j hj hlt ↦ by omega, hhappens⟩
      | ok happens =>
        rw [hhappens] at h
        cases happens with
        | true => cases h
        | false =>
          obtain ⟨i, ⟨hle, hlt⟩, hplain, hquiet, herror⟩ := ih h
          refine ⟨i, ⟨by omega, hlt⟩, hplain, ?_, herror⟩
          intro j hj hji
          rcases Nat.eq_or_lt_of_le hj with rfl | hj
          · exact ⟨hleft.2, quiet_of_happensAt hhappens⟩
          · exact hquiet j hj hji
    · cases h

/-! ### The step -/

/-- A scan has come, in a mode that absorbs text, to a place where no mode ends and no candidate
is found. -/
structure AtUnmatched (g : CompiledGrammar) (src : Source) (s : ScanState) : Prop where
  left : s.pos < src.size
  absorbs : s.stack.top.spec.absorb = true
  unended : ∀ m parents, s.stack.opened = m :: parents →
    optionalAt? src m.spec.finish s.pos = .ok none ∧
      (if m.spec.endsWithParent then parentEnds src s.pos parents else .ok false) = .ok false
  unmatched : candidate? g src s.stack.top s.pos = .ok none

/-- A step refuses the character it has come to: it gets a token of its own, which is unknown. -/
def Refuses (g : CompiledGrammar) (src : Source) (s : ScanState) : Prop :=
  step g src s = (.emitted (token src Class.unknown s.pos (s.pos + 1)), ⟨s.stack, s.pos + 1⟩)

/-- A step absorbs the character it has come to: it gets a token of the class of the mode with the
characters behind it, up to a stray one or a place where something happens. Looking for that place
may fail; then the state is left as it is. -/
inductive Keeps (g : CompiledGrammar) (src : Source) (s : ScanState) : Prop where
  | absorbs {stop : Nat} : s.pos < stop → stop ≤ src.size →
      (∀ i, s.pos ≤ i → i < stop → strayAt src i = false) →
      (stop = src.size ∨ strayAt src stop = true ∨
        happensAt g src s.stack.top s.stack.opened.tail stop = .ok true) →
      step g src s = (.emitted (token src s.stack.top.spec.cls s.pos stop), ⟨s.stack, stop⟩) →
      Keeps g src s
  | fails {i : Nat} {e : ScanError} : s.pos < i → i < src.size →
      (∀ j, s.pos ≤ j → j ≤ i → strayAt src j = false) →
      happensAt g src s.stack.top s.stack.opened.tail i = .error e → g.SearchError src i e →
      step g src s = (.failed e, s) → Keeps g src s

private theorem atUnmatched_of_happensAt (ho : s.stack.opened = m :: parents)
    (hleft : s.pos < src.size)
    (habsorb : m.spec.absorb = true) (h : happensAt g src m parents s.pos = .ok false) :
    AtUnmatched g src s := by
  have htop : s.stack.top = m := by simp [ModeStack.top, ho]
  have hquiet := quiet_of_happensAt h
  refine ⟨hleft, htop ▸ habsorb, fun m' parents' ho' ↦ ?_, htop ▸ hquiet.candidate⟩
  obtain ⟨rfl, rfl⟩ := List.cons.inj (ho.symm.trans ho')
  exact ⟨hquiet.finish, hquiet.parents⟩

/-- Only an open mode absorbs text. -/
theorem AtUnmatched.quiet (h : AtUnmatched g src s) {illegal : Option Pattern}
    (hs : s.stack.BelongsTo g) (hroot : g.root = rootSpec illegal) :
    ∃ parents, s.stack.opened = s.stack.top :: parents ∧
      Quiet g src s.stack.top parents s.pos := by
  cases ho : s.stack.opened with
  | nil =>
    have habsorbs := h.absorbs
    simp only [ModeStack.top, ho, List.headD_nil, hs.root, hroot] at habsorbs
    cases habsorbs
  | cons m parents =>
    have htop : s.stack.top = m := by simp [ModeStack.top, ho]
    obtain ⟨hfinish, hparents⟩ := h.unended m parents ho
    rw [htop]
    exact ⟨parents, rfl, hfinish, hparents, htop ▸ h.unmatched⟩

/-- Where nothing happens a stray character is refused, whatever the mode. -/
theorem Quiet.refuses (h : Quiet g src m parents s.pos) (ho : s.stack.opened = m :: parents)
    (hleft : s.pos < src.size) (hstray : strayAt src s.pos = true) : Refuses g src s := by
  rw [Refuses, h.step_eq ho]
  simp [unmatched, hstray, emit, Nat.not_lt.mpr (Nat.succ_le_of_lt hleft)]

/-- Where nothing happens an absorbing mode absorbs every other character. -/
theorem Quiet.keeps (h : Quiet g src m parents s.pos) (ho : s.stack.opened = m :: parents)
    (hs : s.stack.BelongsTo g) (habsorb : m.spec.absorb = true) (hleft : s.pos < src.size)
    (hplain : strayAt src s.pos = false) : Keeps g src s := by
  have htop : s.stack.top = m := by simp [ModeStack.top, ho]
  have htail : s.stack.opened.tail = parents := by simp [ho]
  have hm : m.BelongsTo g := hs.opened m (by simp [ho])
  have hparents : ∀ p ∈ parents, p.BelongsTo g := fun p hp ↦ hs.opened p (by simp [ho, hp])
  cases hend : absorbedEnd g src m parents (src.size - (s.pos + 1)) (s.pos + 1) with
  | error e =>
    obtain ⟨i, ⟨hle, hlt⟩, hi, hquiet, herror⟩ := absorbedEnd_eq_error hend
    refine .fails (by omega) hlt (fun j hj hji ↦ ?_) ?_
      ((happensAt_yields hm hparents (Nat.le_of_lt hlt)).error herror) ?_
    · rcases Nat.eq_or_lt_of_le hj with rfl | hj
      · exact hplain
      · rcases Nat.eq_or_lt_of_le hji with rfl | hji
        · exact hi
        · exact (hquiet j hj hji).1
    · rw [htop, htail]
      exact herror
    · rw [h.step_eq ho]
      simp [unmatched, habsorb, hplain, hend]
  | ok stop =>
    obtain ⟨⟨hlt, hle⟩, hrest, hmaximal⟩ := h.absorbed hleft hplain hend
    refine .absorbs hlt hle (fun i hi hstop ↦ (hrest i hi hstop).1) ?_
      (h.absorbs ho habsorb hleft hplain hend hle).emits
    rw [htop, htail]
    exact hmaximal

/-- A step whose mode is not that of unknown text does not both refuse a character and keep it. -/
theorem Keeps.not_refuses (h : Keeps g src s) (hcls : s.stack.top.spec.cls ≠ Class.unknown) :
    ¬ Refuses g src s := by
  intro hrefuses
  cases h with
  | absorbs _ _ _ _ hstep =>
    have htokens := Outcome.emitted.inj (congrArg Prod.fst (hstep.symm.trans hrefuses))
    exact hcls (congrArg Token.cls htokens)
  | fails _ _ _ _ _ hstep =>
    cases congrArg Prod.fst (hstep.symm.trans hrefuses)

/-- Only stray characters are refused. Where no mode ends and no candidate is found, a mode that
absorbs text makes an unknown token of a byte that starts no character and of a control character
other than white space, and of no other character but U+FFFD; each of the others becomes part of a
token of the mode's class. -/
theorem only_stray_refused {gr : Grammar} (hg : compile gr = .ok g) {maxDepth : Int}
    (hs : Reaches g maxDepth (Source.ofText text) s)
    (h : AtUnmatched g (Source.ofText text) s) :
    (((Source.ofText text).piece s.pos).isStray = true ∨
        (Source.ofText text).piece s.pos = .char Text.replacement →
      Refuses g (Source.ofText text) s) ∧
    (((Source.ofText text).piece s.pos).isStray = false →
      (Source.ofText text).piece s.pos ≠ .char Text.replacement →
      Keeps g (Source.ofText text) s) ∧
    (s.stack.top.spec.cls ≠ Class.unknown →
      (Source.ofText text).piece s.pos ≠ .char Text.replacement →
      (Refuses g (Source.ofText text) s ↔
        ((Source.ofText text).piece s.pos).isStray = true)) := by
  obtain ⟨-, -, illegal, hroot⟩ := compile_ok hg
  obtain ⟨parents, ho, hquiet⟩ := h.quiet hs.belongsTo hroot
  have hrefuses (hpiece : ((Source.ofText text).piece s.pos).isStray = true ∨
      (Source.ofText text).piece s.pos = .char Text.replacement) :
      Refuses g (Source.ofText text) s :=
    hquiet.refuses ho h.left ((strayAt_ofText h.left).mpr hpiece)
  have hkeeps (hplain : ((Source.ofText text).piece s.pos).isStray = false)
      (hreal : (Source.ofText text).piece s.pos ≠ .char Text.replacement) :
      Keeps g (Source.ofText text) s := by
    refine hquiet.keeps ho hs.belongsTo h.absorbs h.left (Bool.eq_false_iff.mpr fun hstray ↦ ?_)
    rcases (strayAt_ofText h.left).mp hstray with hpiece | hpiece
    · rw [hplain] at hpiece
      cases hpiece
    · exact hreal hpiece
  refine ⟨hrefuses, hkeeps, fun hcls hreal ↦ ⟨fun hstep ↦ ?_, fun hpiece ↦ hrefuses (.inl hpiece)⟩⟩
  cases hpiece : ((Source.ofText text).piece s.pos).isStray with
  | true => rfl
  | false => exact absurd hstep ((hkeeps hpiece hreal).not_refuses hcls)

/-- A scan of blocks that absorb text has come to a place where nothing happens. -/
private def restsInBlock (g : CompiledGrammar) (src : Source) (s : ScanState) : Bool :=
  match s.stack.opened with
  | [] => false
  | m :: parents => s.pos < src.size && m.spec.cls == "block" && m.spec.absorb &&
      happensAt g src m parents s.pos = .ok false

private theorem atUnmatched_of_restsInBlock (h : restsInBlock g src s = true) :
    AtUnmatched g src s ∧ s.stack.top.spec.cls = "block" := by
  unfold restsInBlock at h
  split at h
  · cases h
  · next m parents ho =>
    simp only [Bool.and_eq_true, decide_eq_true_eq, beq_iff_eq] at h
    obtain ⟨⟨⟨hleft, hcls⟩, habsorb⟩, hnothing⟩ := h
    exact ⟨atUnmatched_of_happensAt ho hleft habsorb hnothing, by simp [ModeStack.top, ho, hcls]⟩

/-- A block of a byte that starts no character and of a letter, with a control character behind
it. -/
def strayText : ByteArray := ⟨#[0x3c, 0xff, 0x61, 0x01, 0x3e]⟩

/-- In a block a byte that starts no character is refused, and a letter is kept. -/
theorem only_stray_refused_absorbingBlocks :
    ∃ g, compile absorbingBlocks = .ok g ∧ ∃ s s',
      Reaches g 0 (Source.ofText strayText) s ∧
      AtUnmatched g (Source.ofText strayText) s ∧
      Refuses g (Source.ofText strayText) s ∧
      Reaches g 0 (Source.ofText strayText) s' ∧
      AtUnmatched g (Source.ofText strayText) s' ∧
      Keeps g (Source.ofText strayText) s' := by
  obtain ⟨g, hg, htest⟩ := exists_compiled absorbingBlocks
    (fun g ↦
      let src := Source.ofText strayText
      ((stateAfter? g src 1 (start g 0)).any fun s ↦
        restsInBlock g src s && (src.piece s.pos).isStray) &&
      (stateAfter? g src 2 (start g 0)).any fun s ↦
        restsInBlock g src s && !(src.piece s.pos).isStray &&
          src.piece s.pos != .char Text.replacement)
    (by decide +kernel)
  obtain ⟨htest, htest'⟩ := Bool.and_eq_true_iff.mp htest
  obtain ⟨s, hs, htest⟩ := (Option.any_eq_true _ _).mp htest
  obtain ⟨s', hs', htest'⟩ := (Option.any_eq_true _ _).mp htest'
  simp only [Bool.and_eq_true, Bool.not_eq_true', bne_iff_ne, ne_eq] at htest htest'
  obtain ⟨hrests, hstray⟩ := htest
  obtain ⟨⟨hrests', hplain⟩, hreal⟩ := htest'
  have hreach : Reaches g 0 (Source.ofText strayText) s := steps_of_stateAfter? hs
  have hreach' : Reaches g 0 (Source.ofText strayText) s' := steps_of_stateAfter? hs'
  obtain ⟨hat, -⟩ := atUnmatched_of_restsInBlock hrests
  obtain ⟨hat', -⟩ := atUnmatched_of_restsInBlock hrests'
  obtain ⟨hrefuses, -, -⟩ := only_stray_refused hg hreach hat
  obtain ⟨-, hkeeps, -⟩ := only_stray_refused hg hreach' hat'
  exact ⟨g, hg, s, s', hreach, hat, hrefuses (.inl hstray), hreach', hat', hkeeps hplain hreal⟩

/-- A real U+FFFD in a block is no stray character, but is refused: its token is unknown. -/
theorem replacement_refused_absorbingBlocks :
    ∃ g, compile absorbingBlocks = .ok g ∧ ∃ s,
      Reaches g 0 (Source.ofText "<\uFFFD>".toUTF8) s ∧
      AtUnmatched g (Source.ofText "<\uFFFD>".toUTF8) s ∧ s.stack.top.spec.cls = "block" ∧
      (Source.ofText "<\uFFFD>".toUTF8).piece s.pos = .char '\uFFFD' ∧
      ((Source.ofText "<\uFFFD>".toUTF8).piece s.pos).isStray = false ∧
      Refuses g (Source.ofText "<\uFFFD>".toUTF8) s := by
  obtain ⟨g, hg, htest⟩ := exists_compiled absorbingBlocks
    (fun g ↦
      let src := Source.ofText "<\uFFFD>".toUTF8
      (stateAfter? g src 1 (start g 0)).any fun s ↦
        restsInBlock g src s && src.piece s.pos == .char '\uFFFD')
    (by decide +kernel)
  obtain ⟨s, hs, htest⟩ := (Option.any_eq_true _ _).mp htest
  simp only [Bool.and_eq_true, beq_iff_eq] at htest
  obtain ⟨hrests, hpiece⟩ := htest
  obtain ⟨hat, hcls⟩ := atUnmatched_of_restsInBlock hrests
  have hreach : Reaches g 0 (Source.ofText "<\uFFFD>".toUTF8) s := steps_of_stateAfter? hs
  obtain ⟨-, -, illegal, hroot⟩ := compile_ok hg
  obtain ⟨parents, ho, hquiet⟩ := hat.quiet hreach.belongsTo hroot
  have hstray := (strayAt_ofText hat.left).mpr (.inr hpiece)
  refine ⟨g, hg, s, hreach, hat, hcls, hpiece, ?_, hquiet.refuses ho hat.left hstray⟩
  rw [hpiece]
  decide

end Scan

end CodeViewer
