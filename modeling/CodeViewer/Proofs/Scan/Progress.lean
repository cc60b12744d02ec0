import CodeViewer.Grammar.Compile
import CodeViewer.Proofs.Scan.Run

/-!
# Every scan comes to its end

A step either consumes text, and opens at most one mode, or closes modes. Twice the number of
characters left together with the number of open modes therefore falls with every step, which
bounds the steps of a scan by twice the number of characters of its text.
-/

namespace CodeViewer

open Text (Source)

namespace Scan

/-- What a scan has left to do at most: two steps for every character, one for every mode. -/
def work (src : Source) (s : ScanState) : Nat := 2 * (src.size - s.pos) + s.stack.depth

/-- How a step gets on: it consumes text and closes modes or enters one, or it closes modes. -/
def GetsOn (src : Source) (s s' : ScanState) : Prop :=
  (s.pos < s'.pos ∧ s'.pos ≤ src.size ∧
      ((∃ count, s'.stack = s.stack.close count) ∨ ∃ r, s'.stack = s.stack.enter r)) ∨
    (s'.pos = s.pos ∧ ∃ count, 0 < count ∧ count ≤ s.stack.depth ∧
      s'.stack = s.stack.close count)

variable {g : CompiledGrammar} {src : Source} {maxDepth : Int} {s s' : ScanState}
  {o : Option Token} {os : List (Option Token)}

/-- A step that does not fail gets on. -/
theorem Moves.getsOn (h : Moves g src s o s') (hs : s.stack.BelongsTo g) :
    GetsOn src s s' := by
  have hc := h.change hs
  cases o with
  | none =>
    cases hc with
    | close count h0 hcount => exact .inr ⟨rfl, count, h0, hcount, rfl⟩
  | some t =>
    cases hc with
    | consume count hlt hle _ => exact .inl ⟨hlt, hle, .inl ⟨count, rfl⟩⟩
    | enter _ _ _ hlt hle => exact .inl ⟨hlt, hle, .inr ⟨_, rfl⟩⟩

private theorem GetsOn.work_lt (h : GetsOn src s s') (hpos : s.pos < src.size) :
    work src s' < work src s := by
  unfold work
  rcases h with ⟨hlt, hle, ⟨count, hstack⟩ | ⟨r, hstack⟩⟩ | ⟨heq, count, h0, hcount, hstack⟩
  · rw [hstack, ModeStack.depth_close]
    omega
  · rw [hstack, ModeStack.depth_enter]
    omega
  · rw [heq, hstack, ModeStack.depth_close]
    omega

private theorem GetsOn.pos_le (h : GetsOn src s s') (hpos : s.pos < src.size) :
    s'.pos ≤ src.size := by
  rcases h with ⟨-, hle, -⟩ | ⟨heq, -⟩
  · exact hle
  · omega

/-- A step does some of the work. -/
theorem Moves.work_lt (h : Moves g src s o s') (hs : s.stack.BelongsTo g) :
    work src s' < work src s :=
  (h.getsOn hs).work_lt h.1

/-- The steps of a run are paid for by the work they do. -/
theorem Steps.length_add_work_le (h : Steps g src s os s') (hs : s.stack.BelongsTo g) :
    os.length + work src s' ≤ work src s := by
  induction h with
  | nil s => simp
  | cons hm _ ih =>
    have hrest := ih (hm.belongsTo hs)
    have hfirst := hm.work_lt hs
    simp only [List.length_cons]
    omega

/-- A run never leaves the text. -/
theorem Steps.pos_le (h : Steps g src s os s') (hs : s.stack.BelongsTo g)
    (hpos : s.pos ≤ src.size) : s'.pos ≤ src.size := by
  induction h with
  | nil s => exact hpos
  | cons hm _ ih => exact ih (hm.belongsTo hs) ((hm.getsOn hs).pos_le hm.1)

/-- No state of a scan is behind the end of the text. -/
theorem Reaches.pos_le (h : Reaches g maxDepth src s) : s.pos ≤ src.size := by
  obtain ⟨os, hsteps⟩ := h
  exact hsteps.pos_le (start_belongsTo g maxDepth) (Nat.zero_le _)

private theorem work_start (g : CompiledGrammar) (maxDepth : Int) (src : Source) :
    work src (start g maxDepth) = 2 * src.size := by
  simp [work, start, ModeStack.depth, ModeStack.ofGrammar]

/-- A run has at most two steps for every character, and fewer as long as text is left. -/
theorem Steps.length_le (h : Steps g src (start g maxDepth) os s) :
    os.length ≤ 2 * src.size ∧ (s.pos < src.size → os.length < 2 * src.size) := by
  have hwork := h.length_add_work_le (start_belongsTo g maxDepth)
  rw [work_start] at hwork
  constructor
  · omega
  · intro hpos
    have hleft : 0 < work src s := by
      unfold work
      omega
    omega

/-- Every token of a run takes up text. -/
theorem Steps.tokens_le (h : Steps g src s os s') (hs : s.stack.BelongsTo g) :
    s.pos + os.reduceOption.length ≤ s'.pos := by
  induction h with
  | nil s => simp
  | @cons s s' s'' o os hm _ ih =>
    have hrest := ih (hm.belongsTo hs)
    have hc := hm.change hs
    cases o with
    | none =>
      cases hc with
      | close count _ _ => rwa [List.reduceOption_cons_of_none]
    | some t =>
      rw [List.reduceOption_cons_of_some, List.length_cons]
      cases hc with
      | consume count hlt _ _ =>
        simp only at hrest
        omega
      | enter _ _ _ hlt _ =>
        simp only at hrest
        omega

end Scan

namespace Scanner

open Scan

variable {g : CompiledGrammar} {src : Source} {maxDepth : Int} {tokens : List Token}
  {s : Scanner}

/-- A scan hands out no more tokens than there are characters. -/
theorem Follows.tokens_le (h : Follows g maxDepth src tokens s) : tokens.length ≤ src.size := by
  obtain ⟨-, -, os, st, hsteps, rfl, -⟩ := h
  have hs := start_belongsTo g maxDepth
  have hle := hsteps.tokens_le hs
  have hpos := hsteps.pos_le hs (Nat.zero_le _)
  simp only [start] at hle
  omega

/-- Running a scanner to its end only adds to the tokens there are. -/
theorem acc_prefix_drain (cancelAfter : Option Nat) (fuel count : Nat)
    (acc : Array (Token × Nat)) (s : Scanner) :
    acc.toList <+: (drain cancelAfter fuel count acc s).1.toList := by
  induction fuel generalizing count acc s with
  | zero => exact List.prefix_rfl
  | succ fuel ih =>
    unfold drain
    split
    · exact List.prefix_rfl
    · next t s' _ =>
      refine List.IsPrefix.trans ?_ (ih (count + 1) (acc.push (t, s'.depth)) s')
      rw [Array.toList_push]
      exact List.prefix_append _ _

private theorem drain_calls (h : Follows g maxDepth src tokens s) (cancelAfter : Option Nat)
    (fuel count : Nat) (acc : Array (Token × Nat)) :
    ∃ calls, (drain cancelAfter fuel count acc s).1.toList.map Prod.fst =
        acc.toList.map Prod.fst ++ (s.nextEach calls).1 ∧
      (drain cancelAfter fuel count acc s).2 = (s.nextEach calls).2 ∧
      ((∃ e, (s.nextEach calls).2.status = .stopped e) ∨
        (s.nextEach calls).1.length = fuel) := by
  induction fuel generalizing s tokens count acc with
  | zero => exact ⟨[], by simp [drain, nextEach], rfl, .inr rfl⟩
  | succ fuel ih =>
    have hnext := h.next (isCancelled cancelAfter count)
    have hstopped := (h.answers (isCancelled cancelAfter count)).stopped
    unfold drain
    cases ha : s.next (isCancelled cancelAfter count) with
    | mk token? s' =>
      rw [ha] at hnext hstopped
      cases token? with
      | none =>
        refine ⟨[isCancelled cancelAfter count], ?_, ?_, .inl ?_⟩
        · simp [nextEach, ha]
        · simp [nextEach, ha]
        · simpa [nextEach, ha] using hstopped rfl
      | some t =>
        obtain ⟨calls, htokens, hlast, hend⟩ := ih hnext (count + 1) (acc.push (t, s'.depth))
        refine ⟨isCancelled cancelAfter count :: calls, ?_, ?_, ?_⟩
        · simpa [nextEach, ha] using htokens
        · simpa [nextEach, ha] using hlast
        · simpa [nextEach, ha] using hend

/-- A whole scan is a sequence of calls that ends with the scan being over. -/
theorem run_calls (g : CompiledGrammar) (maxDepth : Int) (text : ByteArray)
    (cancelAfter : Option Nat) :
    ∃ calls, ((ofText g maxDepth text).run cancelAfter).1.toList.map Prod.fst =
        ((ofText g maxDepth text).nextEach calls).1 ∧
      ((ofText g maxDepth text).run cancelAfter).2 =
        ((ofText g maxDepth text).nextEach calls).2 ∧
      ∃ e, ((ofText g maxDepth text).nextEach calls).2.status = .stopped e := by
  have hfirst := follows_ofText g maxDepth text
  obtain ⟨calls, htokens, hlast, hend⟩ :=
    drain_calls hfirst cancelAfter ((Source.ofText text).size + 1) 0 #[]
  refine ⟨calls, htokens.trans (List.nil_append _), hlast, ?_⟩
  rcases hend with hover | hlength
  · exact hover
  · have hle := (nextEach_follows g maxDepth text calls).tokens_le
    omega

/-- The tokens of a whole scan are those of a scanner that has stopped, and so is its error. -/
theorem exists_follows_scan (g : CompiledGrammar) (maxDepth : Int) (text : ByteArray) :
    ∃ s, Follows g maxDepth (Source.ofText text) (scan g maxDepth text).1.toList s ∧
      s.status = .stopped (scan g maxDepth text).2 := by
  obtain ⟨calls, htokens, hlast, e, hstatus⟩ := run_calls g maxDepth text none
  have hfollows := nextEach_follows g maxDepth text calls
  rw [← htokens, ← Array.toList_map] at hfollows
  have herror : (scan g maxDepth text).2 = e := by
    change ((ofText g maxDepth text).run none).2.error? = e
    rw [hlast, error?, hstatus]
  rw [herror]
  exact ⟨_, hfollows, hstatus⟩

/-- Scanning terminates. Every step of a scan that does not fail does some of the work left: it
consumes text and opens at most one mode, or it closes modes and opens none. A run has at most two
steps for every character of the text, every call returns whatever calls were made before, and
the calls come to the end of the scan. -/
theorem scanning_terminates (g : CompiledGrammar) (maxDepth : Int) (text : ByteArray) :
    (∀ s o s', Reaches g maxDepth (Source.ofText text) s →
      Moves g (Source.ofText text) s o s' →
        work (Source.ofText text) s' < work (Source.ofText text) s ∧
          GetsOn (Source.ofText text) s s') ∧
    (∀ os s, Steps g (Source.ofText text) (start g maxDepth) os s →
      os.length ≤ 2 * (Source.ofText text).size ∧
        (s.pos < (Source.ofText text).size → os.length < 2 * (Source.ofText text).size)) ∧
    (∀ calls cancelled,
      Follows g maxDepth (Source.ofText text) ((ofText g maxDepth text).nextEach calls).1
          ((ofText g maxDepth text).nextEach calls).2 ∧
        Answers cancelled ((ofText g maxDepth text).nextEach calls).2
          (((ofText g maxDepth text).nextEach calls).2.next cancelled)) ∧
    ∀ cancelAfter, ∃ e, ((ofText g maxDepth text).run cancelAfter).2.status = .stopped e := by
  refine ⟨fun s o s' hreach hm ↦ ?_, fun os s hsteps ↦ hsteps.length_le,
    fun calls cancelled ↦ ?_, fun cancelAfter ↦ ?_⟩
  · exact ⟨hm.work_lt hreach.belongsTo, hm.getsOn hreach.belongsTo⟩
  · have hfollows := nextEach_follows g maxDepth text calls
    exact ⟨hfollows, hfollows.answers cancelled⟩
  · obtain ⟨calls, -, hlast, hover⟩ := run_calls g maxDepth text cancelAfter
    rwa [hlast]

/-- A block that is opened is paid for by the text that opens it. -/
theorem scanning_terminates_nestedBlocks :
    ∃ g, compile nestedBlocks = .ok g ∧ ∃ o s',
      Moves g (Source.ofText "<(<;".toUTF8) (start g 0) o s' ∧
        work (Source.ofText "<(<;".toUTF8) s' <
          work (Source.ofText "<(<;".toUTF8) (start g 0) ∧
        [o].length ≤ 2 * (Source.ofText "<(<;".toUTF8).size := by
  obtain ⟨g, hg, hstep⟩ := exists_compiled nestedBlocks
    (fun g ↦ !hasFailed (step g (Source.ofText "<(<;".toUTF8) (start g 0)).1)
    (by decide +kernel)
  have hpos : 0 < (Source.ofText "<(<;".toUTF8).size := by decide +kernel
  obtain ⟨o, hm⟩ := exists_moves (s := start g 0) hpos (by simpa using hstep)
  have h := scanning_terminates g 0 "<(<;".toUTF8
  refine ⟨g, hg, o, _, hm, (h.1 _ _ _ ⟨[], .nil _⟩ hm).1, ?_⟩
  exact (h.2.1 [o] _ (.cons hm (.nil _))).1

end Scanner

end CodeViewer
