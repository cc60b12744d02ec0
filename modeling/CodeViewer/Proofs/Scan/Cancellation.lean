import CodeViewer.Proofs.Scan.Tiling

/-!
# Cancellation only cuts a scan short

A scan looks whether it was cancelled in front of every step, but only while text is left, and
not before it has looked at the start of its text. Up to that moment it does what it does without
being cancelled; from then on it does nothing more.
-/

namespace CodeViewer

open Text (Source)

/-- How far tokens reach: up to the byte behind the last of them. -/
def reach (tokens : List Token) : Nat := (tokens.getLast?.map Token.stop).getD 0

namespace Scanner

open Scan

variable {g : CompiledGrammar} {maxDepth : Int} {text : ByteArray} {tokens : List Token}
  {s : Scanner} {n : Nat}

/-! ### Calls that take steps -/

/-- A scanner whose next call goes on scanning: it has been called before and is not over, or its
text begins with nothing illegal. -/
def IsUnderWay (s : Scanner) : Prop :=
  s.status = .running ∨
    s.status = .ready ∧ checkIllegal s.source s.state.stack.top s.state.pos = .ok ()

private theorem IsUnderWay.next_eq (h : s.IsUnderWay) (cancelled : Bool) :
    s.next cancelled = advance cancelled (s.depth + 1) s := by
  unfold next
  rcases h with hrunning | ⟨hready, hlegal⟩
  · rw [hrunning]
  · rw [hready]
    simp only
    rw [hlegal]

private theorem IsUnderWay.next_of_end (h : s.IsUnderWay) (hend : s.source.size ≤ s.state.pos)
    (cancelled : Bool) : s.next cancelled = (none, s.stop none) := by
  rw [h.next_eq, advance, if_pos hend]

private theorem IsUnderWay.next_cancelled (h : s.IsUnderWay) (hleft : s.state.pos < s.source.size) :
    s.next true = (none, s.stop (some .canceled)) := by
  rw [h.next_eq, advance, if_neg (Nat.not_le.mpr hleft), if_pos rfl]

private theorem Follows.isUnderWay_next {src : Source} (h : Follows g maxDepth src tokens s)
    {cancelled : Bool} {t : Token} (ht : (s.next cancelled).1 = some t) :
    (s.next cancelled).2.IsUnderWay :=
  .inl ((h.answers cancelled).running ht)

/-- As long as a scan is under way, its tokens reach up to the place it has come to. -/
theorem Follows.reach_eq (h : Follows g maxDepth (Source.ofText text) tokens s)
    (hs : s.IsUnderWay) :
    s.state.pos ≤ (Source.ofText text).size ∧
      reach tokens = (Source.ofText text).offset s.state.pos := by
  obtain ⟨-, -, os, st, hsteps, rfl, hat⟩ := h
  have hst : s.state = st := by
    cases hat with
    | ready _ _ hst => exact hst
    | running _ hst => exact hst
    | finished _ hst _ => exact hst
    | canceled _ hst _ => exact hst
    | illegal _ _ hst _ => exact hst
    | failed hstatus _ _ => simp [IsUnderWay, hstatus] at hs
  subst hst
  constructor
  · exact Reaches.pos_le ⟨os, hsteps⟩
  · exact hsteps.tiles_of_start.stop_eq.symm

/-! ### Scans that are cancelled on their way -/

/-- There are `n` tokens, and they do not reach the end of the text. -/
def LeavesText (text : ByteArray) (n : Nat) (tokens : Array (Token × Nat)) : Prop :=
  n ≤ tokens.size ∧ reach ((tokens.toList.take n).map Prod.fst) < text.size

instance (text : ByteArray) (n : Nat) (tokens : Array (Token × Nat)) :
    Decidable (LeavesText text n tokens) :=
  inferInstanceAs (Decidable (_ ∧ _))

/-- What becomes of a scan by being cancelled once `n` tokens were handed out. It is not touched if
there are no `n` tokens or no text is left behind them. -/
structure CutAt (text : ByteArray) (n : Nat) (whole cut : Array (Token × Nat) × Scanner) :
    Prop where
  tokens : cut.1.toList = whole.1.toList.take n
  cancelled : LeavesText text n whole.1 → cut.2.status = .stopped (some .canceled)
  uncut : ¬ LeavesText text n whole.1 → cut = whole

private theorem CutAt.of_not_leavesText {r : Array (Token × Nat) × Scanner} (hsize : r.1.size ≤ n)
    (h : ¬ LeavesText text n r.1) : CutAt text n r r := by
  constructor
  · rw [List.take_of_length_le]
    rwa [Array.length_toList]
  · intro hleaves
    exact absurd hleaves h
  · intro _
    rfl

private theorem drain_cutAt (fuel count : Nat) (acc : Array (Token × Nat))
    (h : Follows g maxDepth (Source.ofText text) tokens s) (hs : s.IsUnderWay)
    (htokens : acc.toList.map Prod.fst = tokens) (hcount : acc.size = count) (hn : count ≤ n)
    (hfuel : (Source.ofText text).size < count + fuel) :
    CutAt text n (drain none fuel count acc s) (drain (some n) fuel count acc s) := by
  induction fuel generalizing count acc s tokens with
  | zero =>
    -- There are no more tokens than characters, so the bound is never reached.
    have hle := h.tokens_le
    rw [← htokens, List.length_map, Array.length_toList] at hle
    omega
  | succ fuel ih =>
    obtain ⟨hpos, hreach⟩ := h.reach_eq hs
    rw [← htokens] at hreach
    by_cases hlast : n ≤ count
    · obtain rfl : count = n := Nat.le_antisymm hn hlast
      by_cases hleft : s.state.pos < (Source.ofText text).size
      · -- Only this call finds the scan cancelled; without it there may be further tokens.
        have hcut : drain (some count) (fuel + 1) count acc s =
            (acc, s.stop (some .canceled)) := by
          have hcancelled : isCancelled (some count) count = true := by simp [isCancelled]
          rw [drain, hcancelled, hs.next_cancelled (h.2.1.symm ▸ hleft)]
        have hprefix := acc_prefix_drain none (fuel + 1) count acc s
        have hle := hprefix.length_le
        have htake := List.prefix_iff_eq_take.mp hprefix
        rw [Array.length_toList, hcount] at hle htake
        rw [hcut]
        constructor
        · exact htake
        · intro _
          rfl
        · intro hleaves
          refine absurd ⟨hle, ?_⟩ hleaves
          rw [← htake, hreach]
          exact Source.offset_lt_size text _ hleft
      · have hend : s.source.size ≤ s.state.pos := h.2.1.symm ▸ Nat.not_lt.mp hleft
        have hover (cancelAfter : Option Nat) :
            drain cancelAfter (fuel + 1) count acc s = (acc, s.stop none) := by
          rw [drain, hs.next_of_end hend]
        rw [hover, hover]
        apply CutAt.of_not_leavesText (Nat.le_of_eq hcount)
        rintro ⟨-, hlt⟩
        have hall : acc.toList.take count = acc.toList := by
          rw [List.take_of_length_le (Nat.le_of_eq hcount)]
        have hsize := (Source.offset_eq_size_iff text hpos).mpr (by omega)
        rw [hall, hreach, hsize] at hlt
        exact Nat.lt_irrefl _ hlt
    · have hfree : isCancelled (some n) count = false := by simpa [isCancelled] using hlast
      rw [drain, drain, hfree, show isCancelled none count = false from rfl]
      have hnext := h.next false
      have hunderWay (t : Token) (ht : (s.next false).1 = some t) := h.isUnderWay_next ht
      cases hanswer : s.next false with
      | mk token? s' =>
        rw [hanswer] at hnext hunderWay
        cases token? with
        | none =>
          apply CutAt.of_not_leavesText
          · simp only
            omega
          · rintro ⟨hle, -⟩
            simp only at hle
            omega
        | some t =>
          apply ih (count + 1) (acc.push (t, s'.depth)) hnext (hunderWay t rfl)
          · simp [htokens]
          · simp [hcount]
          · omega
          · omega

/-! ### Whole scans that are cancelled -/

/-- The look at the start of a text: it fails if the text begins with what it must not begin with,
or if the search for that fails. -/
def startCheck (g : CompiledGrammar) (src : Source) : Except ScanError Unit :=
  checkIllegal src (ModeStack.ofGrammar g 0).top 0

/-- Why the start of a scan fails. -/
theorem startCheck_eq_error {e : ScanError}
    (he : startCheck g (Source.ofText text) = .error e) :
    g.SearchError (Source.ofText text) 0 e ∨
      ∃ k found, optionalAt? (Source.ofText text) g.root.illegal 0 = .ok (some k) ∧
        e = .illegalEntry g.root.cls 0 found := by
  have htop := (ModeStack.belongsTo_ofGrammar g 0).top
  rcases (checkIllegal_yields htop (Nat.zero_le _)).error he with hsearch | ⟨k, found, hk, -, rfl⟩
  · exact .inl hsearch
  · right
    refine ⟨k, found, hk, ?_⟩
    rw [Source.offset_zero]
    rfl

/-- A scan whose start fails hands out nothing, be it cancelled or not. -/
theorem run_of_startCheck {e : ScanError} (he : startCheck g (Source.ofText text) = .error e)
    (cancelAfter : Option Nat) :
    (ofText g maxDepth text).run cancelAfter = (#[], (ofText g maxDepth text).stop (some e)) := by
  have hnext (cancelled : Bool) : (ofText g maxDepth text).next cancelled =
      (none, (ofText g maxDepth text).stop (some e)) := by
    have hready : (ofText g maxDepth text).status = .ready := rfl
    have hfails : checkIllegal (ofText g maxDepth text).source
        (ofText g maxDepth text).state.stack.top (ofText g maxDepth text).state.pos = .error e := he
    simp only [next, hready, hfails]
  rw [run, drain, hnext]

/-- A scan whose start does not fail is cut where it is cancelled. -/
theorem run_cutAt (he : startCheck g (Source.ofText text) = .ok ()) (n : Nat) :
    CutAt text n ((ofText g maxDepth text).run none) ((ofText g maxDepth text).run (some n)) := by
  apply drain_cutAt _ 0 #[] (follows_ofText g maxDepth text)
  · exact .inr ⟨rfl, he⟩
  · rfl
  · rfl
  · exact Nat.zero_le n
  · change (Source.ofText text).size < 0 + ((Source.ofText text).size + 1)
    omega

/-- Cancelling a scan only cuts it short. A scan that is cancelled once `n` tokens were handed out
hands out the first `n` tokens of the scan that is not cancelled, with the same modes open behind
them. If the start fails, because illegal text stands there or because the search for it fails,
both scans end with this error. Otherwise the scan ends as cancelled if there are `n` tokens and
they do not reach the end of the text, and in all other cases as if it had not been cancelled. -/
theorem cancellation_only_truncates (g : CompiledGrammar) (maxDepth : Int) (text : ByteArray)
    (n : Nat) :
    let whole := (ofText g maxDepth text).run none
    let cut := (ofText g maxDepth text).run (some n)
    (∃ e, whole.2.status = .stopped e) ∧
      cut.1.toList = whole.1.toList.take n ∧
      (∀ e, startCheck g (Source.ofText text) = .error e →
        (g.SearchError (Source.ofText text) 0 e ∨
          ∃ k found, optionalAt? (Source.ofText text) g.root.illegal 0 = .ok (some k) ∧
            e = .illegalEntry g.root.cls 0 found) ∧
        whole.2.status = .stopped (some e) ∧ cut.2.status = .stopped (some e)) ∧
      (startCheck g (Source.ofText text) = .ok () →
        (LeavesText text n whole.1 → cut.2.status = .stopped (some .canceled)) ∧
        (¬ LeavesText text n whole.1 → cut = whole)) := by
  intro whole cut
  have hover : ∃ e, whole.2.status = .stopped e := by
    obtain ⟨calls, -, hlast, hstopped⟩ := run_calls g maxDepth text none
    rwa [← hlast] at hstopped
  cases hstart : startCheck g (Source.ofText text) with
  | error e =>
    have hwhole : whole = (#[], (ofText g maxDepth text).stop (some e)) :=
      run_of_startCheck hstart none
    have hcut : cut = (#[], (ofText g maxDepth text).stop (some e)) :=
      run_of_startCheck hstart (some n)
    rw [hwhole, hcut]
    refine ⟨⟨_, rfl⟩, List.take_nil.symm, ?_, nofun⟩
    intro e' he
    cases he
    exact ⟨startCheck_eq_error hstart, rfl, rfl⟩
  | ok _ =>
    have hcut : CutAt text n whole cut := run_cutAt hstart n
    exact ⟨hover, hcut.tokens, nofun, fun _ ↦ ⟨hcut.cancelled, hcut.uncut⟩⟩

/-- Two blocks are opened before the scan is cancelled; the rest of the text is not looked at. -/
theorem cancellation_only_truncates_nestedBlocks :
    ∃ g, compile nestedBlocks = .ok g ∧ startCheck g (Source.ofText "<(<;".toUTF8) = .ok () ∧
      LeavesText "<(<;".toUTF8 2 ((ofText g 0 "<(<;".toUTF8).run none).1 ∧
      ((ofText g 0 "<(<;".toUTF8).run (some 2)).2.status = .stopped (some .canceled) := by
  obtain ⟨g, hg, htest⟩ := exists_compiled nestedBlocks
    (fun g ↦ (startCheck g (Source.ofText "<(<;".toUTF8)).toOption.isSome &&
      decide (LeavesText "<(<;".toUTF8 2 ((ofText g 0 "<(<;".toUTF8).run none).1))
    (by decide +kernel)
  rw [Bool.and_eq_true, decide_eq_true_eq] at htest
  have hstart : startCheck g (Source.ofText "<(<;".toUTF8) = .ok () := by
    cases h : startCheck g (Source.ofText "<(<;".toUTF8) with
    | ok _ => rfl
    | error e =>
      rw [h] at htest
      cases htest.1
  have h := cancellation_only_truncates g 0 "<(<;".toUTF8 2
  exact ⟨g, hg, hstart, htest.2, (h.2.2.2 hstart).1 htest.2⟩

/-! ### A start that cannot be looked at -/

/-- A grammar whose search for illegal text breaks down. The lazy repetition ends with an empty
iteration and leaves a mark behind, so that the look-ahead around it takes a wrong height for that
of its trail. -/
def stumblingStart : Grammar := { name := "stumbling", illegal := "(a)+(?!$+?)" }

/-- A text in front of which the search breaks down. -/
def stumblingText : ByteArray := ⟨Array.replicate 21 97⟩

/-- The search for illegal text is reported if it breaks down, even if no illegal text was found
and the scan was cancelled before. -/
theorem startBreakdown_reported_when_cancelled :
    ∃ g, compile stumblingStart = .ok g ∧
      (∀ k, optionalAt? (Source.ofText stumblingText) g.root.illegal 0 ≠ .ok (some k)) ∧
      LeavesText stumblingText 0 ((ofText g 0 stumblingText).run none).1 ∧
      ((ofText g 0 stumblingText).run none).2.status = .stopped (some (.badInstruction 0)) ∧
      ((ofText g 0 stumblingText).run (some 0)).2.status = .stopped (some (.badInstruction 0)) ∧
      ((ofText g 0 stumblingText).run (some 0)).2.status ≠ .stopped (some .canceled) := by
  obtain ⟨g, hg, htest⟩ := exists_compiled stumblingStart
    (fun g ↦ match optionalAt? (Source.ofText stumblingText) g.root.illegal 0 with
      | .error e => e == .badInstruction 0
      | .ok _ => false)
    (by decide +kernel)
  have hsearch : optionalAt? (Source.ofText stumblingText) g.root.illegal 0 =
      .error (.badInstruction 0) := by
    cases h : optionalAt? (Source.ofText stumblingText) g.root.illegal 0 with
    | error e => simpa [h] using htest
    | ok _ => simp [h] at htest
  have hstart : startCheck g (Source.ofText stumblingText) = .error (.badInstruction 0) := by
    change (optionalAt? (Source.ofText stumblingText) g.root.illegal 0 >>= _) = _
    rw [hsearch]
    rfl
  have hrun (cancelAfter : Option Nat) :
      (ofText g 0 stumblingText).run cancelAfter = _ := run_of_startCheck hstart cancelAfter
  refine ⟨g, hg, ?_, ?_, ?_⟩
  · intro k hk
    rw [hsearch] at hk
    cases hk
  · rw [hrun]
    constructor
    · exact Nat.le_refl 0
    · exact Nat.succ_pos 20
  · rw [hrun, hrun]
    exact ⟨rfl, rfl, nofun⟩

end Scanner

end CodeViewer
