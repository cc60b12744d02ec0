import CodeViewer.Proofs.Scan.Progress

/-!
# Tokens tile the text

The tokens of a scan lie end to end from the first byte on, and each of them holds the bytes
between its offsets. A scan that ends without an error has cut up the whole text; any other has
cut up a part of it from the start.
-/

namespace CodeViewer

open Text (Source Boundary)

/-- Tokens that lie end to end from one byte of a text to another: each is longer than nothing,
starts and ends between two characters and holds the bytes in between. -/
def Tiles (text : ByteArray) : (start : Nat) → List Token → (stop : Nat) → Prop
  | i, [], k => i = k
  | i, t :: ts, k =>
    t.start = i ∧ t.start < t.stop ∧ t.stop ≤ text.size ∧ Boundary text t.start ∧
      Boundary text t.stop ∧ t.text = text.extract t.start t.stop ∧ Tiles text t.stop ts k

/-- The texts of tokens, one after the other. -/
def joinedText (tokens : List Token) : ByteArray :=
  tokens.foldr (fun t rest ↦ t.text ++ rest) ByteArray.empty

/-- Tokens that lie end to end make up what lies between their ends. -/
theorem Tiles.joinedText {text : ByteArray} {i k : Nat} {tokens : List Token}
    (h : Tiles text i tokens k) :
    i ≤ k ∧ CodeViewer.joinedText tokens = text.extract i k := by
  induction tokens generalizing i with
  | nil =>
    obtain rfl := h
    exact ⟨Nat.le_refl _, ByteArray.extract_same.symm⟩
  | cons t ts ih =>
    obtain ⟨rfl, hlt, -, -, -, htext, hrest⟩ := h
    obtain ⟨hle, hjoined⟩ := ih hrest
    refine ⟨by omega, ?_⟩
    change t.text ++ CodeViewer.joinedText ts = _
    rw [htext, hjoined]
    exact (ByteArray.extract_eq_extract_append_extract _ (Nat.le_of_lt hlt) hle).symm

/-- Every token lies between the ends. -/
theorem Tiles.mem {text : ByteArray} {i k : Nat} {tokens : List Token} (h : Tiles text i tokens k)
    {t : Token} (ht : t ∈ tokens) :
    i ≤ t.start ∧ t.start < t.stop ∧ t.stop ≤ k ∧ Boundary text t.start ∧
      Boundary text t.stop := by
  induction tokens generalizing i with
  | nil => cases ht
  | cons t' ts ih =>
    obtain ⟨rfl, hlt, -, hstart, hstop, -, hrest⟩ := h
    rcases List.mem_cons.mp ht with rfl | ht
    · exact ⟨Nat.le_refl _, hlt, hrest.joinedText.1, hstart, hstop⟩
    · obtain ⟨hle, hmem⟩ := ih hrest ht
      exact ⟨Nat.le_trans (Nat.le_of_lt hlt) hle, hmem⟩

/-- Tokens that lie end to end do not overlap. -/
theorem Tiles.pairwise {text : ByteArray} {i k : Nat} {tokens : List Token}
    (h : Tiles text i tokens k) : tokens.Pairwise fun t t' ↦ t.stop ≤ t'.start := by
  induction tokens generalizing i with
  | nil => exact .nil
  | cons t ts ih =>
    obtain ⟨rfl, -, -, -, -, -, hrest⟩ := h
    exact .cons (fun t' ht' ↦ (hrest.mem ht').1) (ih hrest)

/-- Of tokens that lie end to end no two hold the same byte. -/
theorem Tiles.eq_of_holds {text : ByteArray} {i k o : Nat} {tokens : List Token}
    (h : Tiles text i tokens k) {t t' : Token} (ht : t ∈ tokens) (ht' : t' ∈ tokens)
    (ho : t.start ≤ o ∧ o < t.stop) (ho' : t'.start ≤ o ∧ o < t'.stop) : t = t' := by
  induction tokens generalizing i with
  | nil => cases ht
  | cons first ts ih =>
    obtain ⟨rfl, -, -, -, -, -, hrest⟩ := h
    rcases List.mem_cons.mp ht with rfl | hlater
    · rcases List.mem_cons.mp ht' with rfl | hlater'
      · rfl
      · have hle := (hrest.mem hlater').1
        omega
    · rcases List.mem_cons.mp ht' with rfl | hlater'
      · have hle := (hrest.mem hlater).1
        omega
      · exact ih hrest hlater hlater'

/-- Every byte between the ends is held by a token. -/
theorem Tiles.exists_holding {text : ByteArray} {i k o : Nat} {tokens : List Token}
    (h : Tiles text i tokens k) (hi : i ≤ o) (hk : o < k) :
    ∃ t ∈ tokens, t.start ≤ o ∧ o < t.stop := by
  induction tokens generalizing i with
  | nil =>
    obtain rfl : i = k := h
    omega
  | cons t ts ih =>
    obtain ⟨rfl, -, -, -, -, -, hrest⟩ := h
    by_cases ho : o < t.stop
    · exact ⟨t, List.mem_cons_self, hi, ho⟩
    · obtain ⟨t', ht', hholds⟩ := ih hrest (Nat.not_lt.mp ho)
      exact ⟨t', List.mem_cons_of_mem _ ht', hholds⟩

/-- Tokens that lie end to end do so up to the end of the last of them. -/
theorem Tiles.stop_eq {text : ByteArray} {i k : Nat} {tokens : List Token}
    (h : Tiles text i tokens k) : k = (tokens.getLast?.map Token.stop).getD i := by
  induction tokens generalizing i with
  | nil => exact h.symm
  | cons t ts ih =>
    obtain ⟨-, -, -, -, -, -, hrest⟩ := h
    rw [ih hrest]
    cases ts with
    | nil => rfl
    | cons t' ts => rw [List.getLast?_cons_cons, List.getLast?_cons]; rfl

namespace Scan

variable {g : CompiledGrammar} {text : ByteArray} {maxDepth : Int} {s s' : ScanState}
  {o : Option Token} {os : List (Option Token)}

/-- The token of characters that are there starts and ends with them. -/
theorem tiles_token {cls : Class} {start stop : Nat} {ts : List Token} {k : Nat}
    (hlt : start < stop) (hle : stop ≤ (Source.ofText text).size)
    (h : Tiles text ((Source.ofText text).offset stop) ts k) :
    Tiles text ((Source.ofText text).offset start)
      (token (Source.ofText text) cls start stop :: ts) k := by
  have hstart : start ≤ (Source.ofText text).size := by omega
  have hstop := Source.boundary_offset text stop hle
  exact ⟨rfl, Source.offset_lt_offset text hlt hle, hstop.le_size,
    Source.boundary_offset text start hstart, hstop, rfl, h⟩

/-- The tokens of a run of steps lie between the places it starts and ends at. -/
theorem Steps.tiles (h : Steps g (Source.ofText text) s os s') (hs : s.stack.BelongsTo g) :
    Tiles text ((Source.ofText text).offset s.pos) os.reduceOption
      ((Source.ofText text).offset s'.pos) := by
  induction h with
  | nil s => rfl
  | @cons s s' s'' o os hm _ ih =>
    have hrest := ih (hm.belongsTo hs)
    have hc := hm.change hs
    cases o with
    | none =>
      rw [List.reduceOption_cons_of_none]
      cases hc with
      | close count _ _ => exact hrest
    | some t =>
      rw [List.reduceOption_cons_of_some]
      cases hc with
      | consume count hlt hle _ => exact tiles_token hlt hle hrest
      | enter _ _ _ hlt hle => exact tiles_token hlt hle hrest

/-- The tokens of a run from the start of a scan lie end to end from the first byte on. -/
theorem Steps.tiles_of_start (h : Steps g (Source.ofText text) (start g maxDepth) os s) :
    Tiles text 0 os.reduceOption ((Source.ofText text).offset s.pos) := by
  have htiles := h.tiles (start_belongsTo g maxDepth)
  rwa [start, Source.offset_zero] at htiles

/-- A scan fails in a state it has come to: at its start, where the look for illegal text fails, or
because the step from there fails. -/
def FailsAt (g : CompiledGrammar) (maxDepth : Int) (src : Source) (s : ScanState)
    (e : ScanError) : Prop :=
  Reaches g maxDepth src s ∧
    (s = start g maxDepth ∧ checkIllegal src s.stack.top s.pos = .error e ∨
      s.pos < src.size ∧ (step g src s).1 = .failed e)

/-- Only a search makes a scan fail for want of text, and it starts where the scan has come to, or
behind that place. -/
theorem FailsAt.searchError {src : Source} (h : FailsAt g maxDepth src s .outOfText) :
    g.SearchError src s.pos .outOfText := by
  obtain ⟨hreach, ⟨rfl, hillegal⟩ | ⟨hleft, hstep⟩⟩ := h
  · rcases (checkIllegal_yields hreach.belongsTo.top (Nat.zero_le _)).error hillegal with
      hsearch | ⟨n, found, -, -, he⟩
    · exact hsearch
    · cases he
  · have hc := step_change hreach.belongsTo hleft
    rw [hstep] at hc
    cases hc with
    | search hsearch => exact hsearch

end Scan

namespace Scanner

open Scan

variable {g : CompiledGrammar} {maxDepth : Int} {text : ByteArray} {tokens : List Token}
  {s : Scanner} {e : ScanError}

private theorem At.size_le {os : List (Option Token)} {st : ScanState} (h : s.At os st)
    (hended : s.status = .stopped none) : s.source.size ≤ st.pos := by
  cases h with
  | ready hstatus _ _ => simp [hended] at hstatus
  | running hstatus _ => simp [hended] at hstatus
  | finished _ _ hsize => exact hsize
  | canceled hstatus _ _ => simp [hended] at hstatus
  | illegal hstatus _ _ _ => simp [hended] at hstatus
  | failed hstatus _ _ => simp [hended] at hstatus

/-- The tokens a scanner has handed out lie end to end from the first byte on, and up to the end of
the text if it has stopped without an error. -/
theorem Follows.tiles (h : Follows g maxDepth (Source.ofText text) tokens s) :
    ∃ stop ≤ text.size, Tiles text 0 tokens stop ∧
      (s.status = .stopped none → stop = text.size) := by
  obtain ⟨-, hsrc, os, st, hsteps, rfl, hat⟩ := h
  have hpos := Reaches.pos_le ⟨os, hsteps⟩
  have hle := (Source.boundary_offset text st.pos hpos).le_size
  refine ⟨_, hle, hsteps.tiles_of_start, fun hended ↦ ?_⟩
  have hsize := hat.size_le hended
  rw [hsrc] at hsize
  exact (Source.offset_eq_size_iff text hpos).mpr (Nat.le_antisymm hpos hsize)

/-- The tokens of a scan that fails lie end to end up to the place where it does: at its start,
where there are none, or in front of the step that fails. -/
theorem Follows.tiles_error (h : Follows g maxDepth (Source.ofText text) tokens s)
    (he : s.error? = some e) (hcanceled : e ≠ .canceled) :
    ∃ st, Reaches g maxDepth (Source.ofText text) st ∧
      Tiles text 0 tokens ((Source.ofText text).offset st.pos) ∧
      (tokens = [] ∧ st = start g maxDepth ∧
          checkIllegal (Source.ofText text) st.stack.top st.pos = .error e ∨
        st.pos < (Source.ofText text).size ∧
          step g (Source.ofText text) st = (.failed e, s.state)) := by
  obtain ⟨os, st, hsteps, rfl, hfails⟩ := h.error he hcanceled
  exact ⟨st, ⟨os, hsteps⟩, hsteps.tiles_of_start, hfails⟩

/-- A scan that fails without being cancelled does so in the state in which its tokens end. -/
theorem Follows.failsAt (h : Follows g maxDepth (Source.ofText text) tokens s)
    (he : s.error? = some e) (hcanceled : e ≠ .canceled) :
    ∃ st, FailsAt g maxDepth (Source.ofText text) st e ∧
      Tiles text 0 tokens ((Source.ofText text).offset st.pos) := by
  obtain ⟨st, hreach, htiles, ⟨-, hstart⟩ | ⟨hleft, hstep⟩⟩ := h.tiles_error he hcanceled
  · exact ⟨st, ⟨hreach, .inl hstart⟩, htiles⟩
  · exact ⟨st, ⟨hreach, .inr ⟨hleft, by rw [hstep]⟩⟩, htiles⟩

/-- The tokens of a scan tile its text. Whatever calls are made, and whichever of them find the
scan cancelled, the tokens handed out lie end to end from the first byte on, so that their texts
make up the text as far as they go; if the scan has ended without an error they make up the whole
text. Nothing is read beyond the end of the text unless a search does so by itself: then the scan
has failed in the state in which the tokens end, and the search starts there or behind. -/
theorem tokens_tile_text (g : CompiledGrammar) (maxDepth : Int) (text : ByteArray)
    (calls : List Bool) (hm : g.MatchesLieIn (Source.ofText text)) :
    ∃ stop, stop ≤ text.size ∧
      Tiles text 0 ((ofText g maxDepth text).nextEach calls).1 stop ∧
      joinedText ((ofText g maxDepth text).nextEach calls).1 = text.extract 0 stop ∧
      (((ofText g maxDepth text).nextEach calls).2.status = .stopped none →
        stop = text.size ∧
          joinedText ((ofText g maxDepth text).nextEach calls).1 = text) ∧
      (((ofText g maxDepth text).nextEach calls).2.error? = some .outOfText →
        ∃ st, FailsAt g maxDepth (Source.ofText text) st .outOfText ∧
          stop = (Source.ofText text).offset st.pos ∧
          g.BreaksDown (Source.ofText text) st.pos .outOfRange) := by
  have hfollows := nextEach_follows g maxDepth text calls
  obtain ⟨stop, hle, htiles, hend⟩ := hfollows.tiles
  obtain ⟨-, hjoined⟩ := htiles.joinedText
  refine ⟨stop, hle, htiles, hjoined, ?_, ?_⟩
  · intro hended
    obtain rfl := hend hended
    rw [ByteArray.extract_zero_size] at hjoined
    exact ⟨rfl, hjoined⟩
  · intro herror
    obtain ⟨st, hfails, htiles'⟩ := hfollows.failsAt herror (by simp)
    refine ⟨st, hfails, ?_, hfails.searchError.breaksDown hm rfl⟩
    exact htiles.stop_eq.trans htiles'.stop_eq.symm

/-- Invalid bytes and a scan that is cancelled on its way leave the tokens end to end. -/
theorem tokens_tile_text_nestedBlocks :
    ∃ g, compile nestedBlocks = .ok g ∧
      g.MatchesLieIn (Source.ofText ⟨#[60, 255, 195, 40, 41]⟩) ∧
      ∃ stop ≤ 5, Tiles ⟨#[60, 255, 195, 40, 41]⟩ 0
        ((ofText g 0 ⟨#[60, 255, 195, 40, 41]⟩).nextEach [false, false, false, true]).1 stop := by
  obtain ⟨g, hg, hsteady⟩ := exists_compiled nestedBlocks
    (fun g ↦ g.patterns.all (·.program.isNone)) (by decide +kernel)
  have hm : g.MatchesLieIn (Source.ofText ⟨#[60, 255, 195, 40, 41]⟩) :=
    CompiledGrammar.matchesLieIn_of_steady _ (by simpa using hsteady)
  obtain ⟨stop, hle, htiles, -⟩ :=
    tokens_tile_text g 0 ⟨#[60, 255, 195, 40, 41]⟩ [false, false, false, true] hm
  exact ⟨g, hg, hm, stop, hle, htiles⟩

/-! ### Whole scans -/

/-- The tokens of a whole scan lie end to end from the first byte on. -/
theorem scan_tiles (g : CompiledGrammar) (maxDepth : Int) (text : ByteArray) :
    ∃ stop, Tiles text 0 (scan g maxDepth text).1.toList stop := by
  obtain ⟨s, hfollows, -⟩ := exists_follows_scan g maxDepth text
  obtain ⟨stop, -, htiles, -⟩ := hfollows.tiles
  exact ⟨stop, htiles⟩

/-- The tokens of a whole scan that meets no error lie end to end up to the end of the text. -/
theorem scan_tiles_text (h : (scan g maxDepth text).2 = none) :
    Tiles text 0 (scan g maxDepth text).1.toList text.size := by
  obtain ⟨s, hfollows, hstatus⟩ := exists_follows_scan g maxDepth text
  obtain ⟨stop, -, htiles, hend⟩ := hfollows.tiles
  rw [h] at hstatus
  rwa [hend hstatus] at htiles

/-- The tokens of a whole scan that meets no error make up the text. -/
theorem joinedText_scan (h : (scan g maxDepth text).2 = none) :
    joinedText (scan g maxDepth text).1.toList = text := by
  rw [(scan_tiles_text h).joinedText.2, ByteArray.extract_zero_size]

/-- A whole scan that fails does so in one of its states. -/
theorem exists_failsAt_of_scan (he : (scan g maxDepth text).2 = some e)
    (hcanceled : e ≠ .canceled) : ∃ st, FailsAt g maxDepth (Source.ofText text) st e := by
  obtain ⟨s, hfollows, hstatus⟩ := exists_follows_scan g maxDepth text
  have herror : s.error? = some e := by
    rw [error?, hstatus]
    exact he
  obtain ⟨st, hfails, -⟩ := hfollows.failsAt herror hcanceled
  exact ⟨st, hfails⟩

end Scanner

end CodeViewer
