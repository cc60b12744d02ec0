import CodeViewer.Grammar.Block
import CodeViewer.Proofs.Grammar.Forest
import CodeViewer.Proofs.Highlight.Agreement
import CodeViewer.Proofs.Widget.Browsing

/-!
# Jumping from token to token

One key takes the cursor of a view to the end of the token under it, another one to the start of the
token in front of it. Tokens start and end between characters, so that the cursor lands there,
unless the middle of a delimiter is jumped to.
-/

namespace CodeViewer

private theorem Highlighter.fault_eq_none {h : Highlighter} {l : Language}
    (hlanguage : h.language = some l)
    (hscan : (scan l.grammar h.maxDepth h.buffer.bytes).2 = none) :
    h.updateInvalidated.2 = none := by
  unfold updateInvalidated
  split
  · rfl
  · unfold update
    split
    · rfl
    · next l' hl' =>
      obtain rfl : l = l' := Option.some.inj (hlanguage.symm.trans hl')
      simp only [hscan]
      rfl

namespace CodeView

open Buffer (ofBytes InDelimiter landing landing_eq landing_le)

variable {cv cv' : CodeView} {contents : ByteArray} {language : Option Language} {maxDepth : Int}
  {t : Token} {pos : Nat}

/-- The key that goes on to the end of the token under the cursor. -/
def nextKey : KeyPress := ⟨.right, true⟩

/-- The key that goes back to the start of the token in front of the cursor. -/
def previousKey : KeyPress := ⟨.left, true⟩

/-! ### The tokens of a view -/

private theorem Browses.tiles (h : cv.Browses contents language maxDepth)
    (hcv' : cv.highlight = .ok cv') :
    ∃ stop, Tiles contents 0 cv'.highlighter.tokens.toList stop := by
  rw [(h.highlighted hcv').2.2]
  exact cv.highlighter.scanned_tiles contents

private theorem Browses.tokenAt?_eq_some_iff (h : cv.Browses contents language maxDepth)
    (hcv' : cv.highlight = .ok cv') :
    cv'.highlighter.tokenAt? pos = some t ↔
      t ∈ cv'.highlighter.tokens.toList ∧ t.start ≤ pos ∧ pos < t.stop := by
  obtain ⟨stop, htiles⟩ := h.tiles hcv'
  rw [Highlighter.tokenAt?_eq_some_iff htiles, Array.mem_toList_iff, Int.ofNat_le, Int.ofNat_lt]

/-- The token under the cursor is the one that holds the byte at its offset. -/
theorem Browses.tokenAtCursor_eq_some_iff (h : cv.Browses contents language maxDepth) :
    cv.tokenAtCursor = .ok (cv', some t) ↔
      cv.highlight = .ok cv' ∧ ∃ pos, cv.offset = .ok pos ∧ t ∈ cv'.highlighter.tokens.toList ∧
        t.start ≤ pos ∧ pos < t.stop := by
  constructor
  · intro ht
    obtain ⟨highlighted, hhighlight, hlookup⟩ := bind_eq_ok.mp ht
    obtain ⟨pos, hpos, heq⟩ := bind_eq_ok.mp hlookup
    obtain ⟨rfl, htoken⟩ := Prod.ext_iff.mp (Except.ok.inj heq)
    exact ⟨hhighlight, pos, (h.highlighted hhighlight).2.1.symm.trans hpos,
      (h.tokenAt?_eq_some_iff hhighlight).mp htoken⟩
  · rintro ⟨hcv', pos, hpos, ht⟩
    refine bind_eq_ok.mpr ⟨cv', hcv', bind_eq_ok.mpr ⟨pos, ?_, ?_⟩⟩
    · exact (h.highlighted hcv').2.1.trans hpos
    · rw [(h.tokenAt?_eq_some_iff hcv').mpr ht]
      rfl

/-! ### One jump -/

private theorem Browses.handles_landing (h : cv'.Browses contents language maxDepth) {k : KeyPress}
    {i : Nat} (hi : Text.Boundary contents i)
    (hmotion : cv.motion k = .ok (some (cv', cv'.cursor.setOffset cv'.buffer i))) (s : Screen) :
    cv.Handles k s fun moved ↦
      moved.Browses contents language maxDepth ∧ moved.offset = .ok (landing contents i) := by
  rw [h.shows.buffer] at hmotion
  rw [← Cursor.offset_setOffset (Buffer.readsAt_of_boundary hi) cv'.cursor]
  exact h.handles hmotion (cv'.cursor.setOffset_lt i) s

/-- From a token the cursor goes on to its end. -/
theorem Browses.jump_next (h : cv.Browses contents language maxDepth)
    (ht : cv.tokenAtCursor = .ok (cv', some t)) (s : Screen) :
    cv.Handles nextKey s fun moved ↦
      moved.Browses contents language maxDepth ∧ moved.offset = .ok (landing contents t.stop) := by
  obtain ⟨hcv', pos, -, hmem, -⟩ := h.tokenAtCursor_eq_some_iff.mp ht
  obtain ⟨stop, htiles⟩ := h.tiles hcv'
  refine (h.highlighted hcv').1.handles_landing (htiles.mem hmem).2.2.2.2 ?_ s
  have hnext : cv.nextToken = .ok (cv', cv'.cursor.setOffset cv'.buffer t.stop) := by
    rw [nextToken, ht]
    rfl
  rw [motion, nextKey, hnext]
  rfl

/-- From behind the start of a token the cursor goes back to it. -/
theorem Browses.jump_previous (h : cv.Browses contents language maxDepth)
    (hcv' : cv.highlight = .ok cv') (hpos : cv.offset = .ok pos)
    (ht : t ∈ cv'.highlighter.tokens.toList) (hstart : t.start < pos) (hstop : pos ≤ t.stop)
    (s : Screen) :
    cv.Handles previousKey s fun moved ↦
      moved.Browses contents language maxDepth ∧ moved.offset = .ok (landing contents t.start) := by
  obtain ⟨stop, htiles⟩ := h.tiles hcv'
  refine (h.highlighted hcv').1.handles_landing (htiles.mem ht).2.2.2.1 ?_ s
  have htoken : cv'.highlighter.tokenAt? (pos - 1 : Nat) = some t :=
    (h.tokenAt?_eq_some_iff hcv').mpr ⟨ht, Nat.le_sub_one_of_lt hstart, by omega⟩
  have hprevious : cv.prevToken = .ok (cv', cv'.cursor.setOffset cv'.buffer t.start) := by
    rw [(h.highlighted hcv').2.1.symm] at hpos
    refine bind_eq_ok.mpr ⟨cv', hcv', bind_eq_ok.mpr ⟨pos, hpos, ?_⟩⟩
    rw [if_neg (by omega), htoken]
    rfl
  rw [motion, previousKey, hprevious]
  rfl

/-- At the start of the text the cursor stays. -/
theorem Browses.jump_start (h : cv.Browses contents language maxDepth)
    (hcv' : cv.highlight = .ok cv') (hpos : cv.offset = .ok 0) (s : Screen) :
    cv.Handles previousKey s fun moved ↦
      moved.Browses contents language maxDepth ∧ moved.offset = .ok 0 := by
  obtain ⟨h', hsame, -⟩ := h.highlighted hcv'
  rw [← hsame] at hpos
  have hprevious : cv.prevToken = .ok (cv', cv'.cursor) :=
    bind_eq_ok.mpr ⟨cv', hcv', bind_eq_ok.mpr ⟨0, hpos, if_pos rfl⟩⟩
  have hmotion : cv.motion previousKey = .ok (some (cv', cv'.cursor)) := by
    rw [motion, previousKey, hprevious]
    rfl
  rw [← hpos, offset, h'.shows.buffer]
  exact h'.handles hmotion h'.line_lt s

/-! ### Files that are scanned to their end -/

variable {l : Language} {r : CodeView × Screen}

private theorem Browses.tiles_text (h : cv.Browses contents (some l) maxDepth)
    (hscan : (scan l.grammar maxDepth contents).2 = none) :
    ∃ cv', cv.highlight = .ok cv' ∧
      cv'.highlighter.tokens.toList = (scan l.grammar maxDepth contents).1.toList ∧
      Tiles contents 0 (scan l.grammar maxDepth contents).1.toList contents.size := by
  have hlanguage : cv.highlighter.language = some l := h.language
  have hfault : cv.highlighter.updateInvalidated.2 = none := by
    refine Highlighter.fault_eq_none hlanguage ?_
    rw [h.maxDepth, h.shows.scanned, h.shows.buffer, Buffer.bytes_ofBytes]
    exact hscan
  have hcv' : cv.highlight = .ok { cv with highlighter := cv.highlighter.updateInvalidated.1 } := by
    unfold highlight
    split
    · next hupdate => rw [hupdate]
    · next hupdate =>
      rw [hupdate] at hfault
      cases hfault
  refine ⟨_, hcv', (h.highlighted hcv').2.2.trans ?_, Scanner.scan_tiles_text hscan⟩
  rw [Highlighter.scanned, hlanguage, h.maxDepth]

/-- Going back leads further to the front, except from the start. -/
theorem Browses.previous_progress (h : cv.Browses contents (some l) maxDepth)
    (hscan : (scan l.grammar maxDepth contents).2 = none) (hpos : cv.offset = .ok pos)
    (s : Screen) :
    cv.Handles previousKey s fun moved ↦
      moved.Browses contents (some l) maxDepth ∧ ∃ pos' ≤ pos - 1, moved.offset = .ok pos' := by
  obtain ⟨cv', hcv', htokens, htiles⟩ := h.tiles_text hscan
  rcases Nat.eq_zero_or_pos pos with rfl | hlt
  · refine (h.jump_start hcv' hpos s).imp fun moved ⟨h', hoffset⟩ ↦ ?_
    exact ⟨h', 0, Nat.le_refl _, hoffset⟩
  · have hle : pos ≤ contents.size := h.standsIn.offset_succeeds.ok hpos
    obtain ⟨t, ht, hstart, hstop⟩ := htiles.exists_holding (Nat.zero_le (pos - 1)) (by omega)
    rw [← htokens] at ht
    have hjump := h.jump_previous hcv' hpos ht (by omega) (by omega) s
    refine hjump.imp fun moved ⟨h', hoffset⟩ ↦ ?_
    exact ⟨h', _, (landing_le contents t.start).trans hstart, hoffset⟩

/-- Going back as often as there are bytes in front of the cursor leads to the start. -/
theorem pressAll_previous (h : r.1.Browses contents (some l) maxDepth)
    (hscan : (scan l.grammar maxDepth contents).2 = none) (hpos : r.1.offset = .ok pos) {n : Nat}
    (hn : pos ≤ n) : (pressAll (List.replicate n previousKey) r).1.offset = .ok 0 := by
  induction n generalizing r pos with
  | zero =>
    obtain rfl : pos = 0 := Nat.le_zero.mp hn
    exact hpos
  | succ n ih =>
    obtain ⟨h', pos', hle, hpos'⟩ := (h.previous_progress hscan hpos r.2).press
    exact ih h' hpos' (by omega)

/-- Going on as often as there are tokens behind the cursor comes to the start of each of them and
then to the end of the text. -/
theorem pressAll_next (h : r.1.Browses contents (some l) maxDepth)
    (hscan : (scan l.grammar maxDepth contents).2 = none) {ts : List Token}
    (hts : ∀ t ∈ ts, t ∈ (scan l.grammar maxDepth contents).1.toList)
    (hout : ∀ t ∈ ts, ¬ InDelimiter contents t.stop) {i : Nat}
    (htiles : Tiles contents i ts contents.size) (hpos : r.1.offset = .ok i) {n : Nat}
    (hn : n ≤ ts.length) :
    (pressAll (List.replicate n nextKey) r).1.offset =
      .ok ((ts[n]?).elim contents.size Token.start) := by
  induction ts generalizing r i n with
  | nil =>
    obtain rfl : n = 0 := Nat.le_zero.mp hn
    obtain rfl : i = contents.size := htiles
    exact hpos
  | cons t ts ih =>
    obtain ⟨rfl, hlt, -, -, -, -, hrest⟩ := htiles
    cases n with
    | zero => exact hpos
    | succ n =>
      obtain ⟨cv', hcv', htokens, -⟩ := h.tiles_text hscan
      have ht : r.1.tokenAtCursor = .ok (cv', some t) := by
        refine h.tokenAtCursor_eq_some_iff.mpr ⟨hcv', _, hpos, ?_, Nat.le_refl _, hlt⟩
        rw [htokens]
        exact hts t List.mem_cons_self
      obtain ⟨h', hoffset⟩ := (h.jump_next ht r.2).press
      rw [landing_eq (hout t List.mem_cons_self)] at hoffset
      -- The cursor is now where the tokens that are left start.
      exact ih h' (fun t' ht' ↦ hts t' (List.mem_cons_of_mem _ ht'))
        (fun t' ht' ↦ hout t' (List.mem_cons_of_mem _ ht')) hrest hoffset
        (Nat.le_of_succ_le_succ hn)

/-! ### Where jumps lead -/

/-- Jumps lead from token to token. Whatever keys were pressed before, the cursor goes on from a
token to its end, further than it was, and back from behind the start of a token to its start.
Going on from the start of a file that is scanned without an error comes to the start of every token
and then to the end of the file. Left out are tokens that end in the middle of a delimiter, in which
no cursor can stand. -/
theorem jumps_land_on_tokens (h : cv.Browses contents language maxDepth) (keys : List KeyPress)
    (s : Screen) (hr : pressAll keys (cv, s) = r) :
    (∀ cv' t, r.1.tokenAtCursor = .ok (cv', some t) → ¬ InDelimiter contents t.stop →
      ∃ pos < t.stop, r.1.offset = .ok pos ∧ r.1.Handles nextKey r.2 (·.offset = .ok t.stop)) ∧
    (∀ cv' t pos, r.1.highlight = .ok cv' → r.1.offset = .ok pos →
      t ∈ cv'.highlighter.tokens → t.start < pos → pos ≤ t.stop → ¬ InDelimiter contents t.start →
      r.1.Handles previousKey r.2 (·.offset = .ok t.start)) ∧
    ∀ l, language = some l → (scan l.grammar maxDepth contents).2 = none →
      (∀ t ∈ (scan l.grammar maxDepth contents).1, ¬ InDelimiter contents t.stop) →
      r.1.offset = .ok 0 →
      (∀ n t, (scan l.grammar maxDepth contents).1[n]? = some t →
        (pressAll (List.replicate n nextKey) r).1.offset = .ok t.start) ∧
      (pressAll (List.replicate (scan l.grammar maxDepth contents).1.size nextKey) r).1.offset =
        .ok contents.size := by
  have hreached : r.1.Browses contents language maxDepth := by
    rw [← hr]
    exact Browses.pressAll (r := (cv, s)) h keys
  refine ⟨fun cv' t ht hout ↦ ?_, fun cv' t pos hcv' hpos ht hstart hstop hout ↦ ?_,
    fun l hl hscan hout hpos ↦ ?_⟩
  · obtain ⟨-, pos, hpos, -, -, hlt⟩ := hreached.tokenAtCursor_eq_some_iff.mp ht
    have hjump := hreached.jump_next ht r.2
    rw [landing_eq hout] at hjump
    exact ⟨pos, hlt, hpos, hjump.imp fun _ hmoved ↦ hmoved.2⟩
  · have hjump := hreached.jump_previous hcv' hpos (Array.mem_toList_iff.mpr ht) hstart hstop r.2
    rw [landing_eq hout] at hjump
    exact hjump.imp fun _ hmoved ↦ hmoved.2
  · subst hl
    have hvisits {n : Nat} (hn : n ≤ (scan l.grammar maxDepth contents).1.toList.length) :=
      pressAll_next hreached hscan (fun t ht ↦ ht)
        (fun t ht ↦ hout t (Array.mem_toList_iff.mp ht)) (Scanner.scan_tiles_text hscan) hpos hn
    refine ⟨fun n t ht ↦ ?_, ?_⟩
    · rw [← Array.getElem?_toList] at ht
      have hn := (List.getElem?_eq_some_iff.mp ht).1
      rw [hvisits (Nat.le_of_lt hn), ht]
      rfl
    · rw [← Array.length_toList, hvisits (Nat.le_refl _),
        List.getElem?_eq_none (Nat.le_refl _)]
      rfl

/-- A view of a text in a grammar, as it is at first, and its screen. -/
def opened (g : CompiledGrammar) (text : ByteArray) : CodeView × Screen :=
  (new "a" text (some (.ofGrammar g)), Screen.empty 4 2)

/-- A delimiter of two characters that lies in one token is jumped over as a whole. -/
theorem jumps_land_on_tokens_delimiter :
    ∃ g, compile (Block.grammar "//") = .ok g ∧
      (∃ cv' t,
        (pressAll [nextKey] (opened g "1\r\n2".toUTF8)).1.tokenAtCursor = .ok (cv', some t) ∧
        t.stop = 3 ∧ ¬ InDelimiter "1\r\n2".toUTF8 3 ∧
        (pressAll [nextKey] (opened g "1\r\n2".toUTF8)).1.Handles nextKey
          (pressAll [nextKey] (opened g "1\r\n2".toUTF8)).2 (·.offset = .ok 3)) ∧
      (scan g 0 "1\r\n2".toUTF8).2 = none ∧ (scan g 0 "1\r\n2".toUTF8).1.size = 3 ∧
      (pressAll (List.replicate 3 nextKey) (opened g "1\r\n2".toUTF8)).1.offset = .ok 4 := by
  obtain ⟨g, hg, htest⟩ := exists_compiled (Block.grammar "//")
    (fun g ↦ ((pressAll [nextKey] (opened g "1\r\n2".toUTF8)).1.tokenAtCursor.toOption.any
        fun r ↦ r.2.any (·.stop == 3)) &&
      decide ((scan g 0 "1\r\n2".toUTF8).2 = none) &&
      decide (∀ t ∈ (scan g 0 "1\r\n2".toUTF8).1, ¬ InDelimiter "1\r\n2".toUTF8 t.stop) &&
      decide ((scan g 0 "1\r\n2".toUTF8).1.size = 3) &&
      decide ((opened g "1\r\n2".toUTF8).1.offset = .ok 0))
    (by decide +kernel)
  simp only [Bool.and_eq_true, decide_eq_true_eq] at htest
  obtain ⟨⟨⟨⟨htoken, hscan⟩, hout⟩, hsize⟩, hstart⟩ := htest
  have hopened := browses_new "a" "1\r\n2".toUTF8 (some (.ofGrammar g))
  obtain ⟨⟨cv', token?⟩, hcv', hfound⟩ := Succeeds.of_any htoken
  obtain ⟨t, rfl, ht⟩ := (Option.any_eq_true _ _).mp hfound
  have hstop : t.stop = 3 := of_decide_eq_true ht
  have hmiddle : ¬ InDelimiter "1\r\n2".toUTF8 3 := by decide +kernel
  obtain ⟨hnext, -, -⟩ := jumps_land_on_tokens hopened [nextKey] (Screen.empty 4 2) rfl
  obtain ⟨-, -, hall⟩ := jumps_land_on_tokens hopened [] (Screen.empty 4 2) rfl
  obtain ⟨pos, -, -, hhandles⟩ := hnext cv' t hcv' (hstop ▸ hmiddle)
  obtain ⟨-, hend⟩ := hall _ rfl hscan hout hstart
  rw [hstop] at hhandles
  have hsize' : (scan (Language.ofGrammar g).grammar 0 "1\r\n2".toUTF8).1.size = 3 := hsize
  rw [hsize'] at hend
  exact ⟨g, hg, ⟨cv', t, hcv', hstop, hmiddle, hhandles⟩, hscan, hsize, hend⟩

/-- A comment up to the end of its line ends in the middle of a delimiter of two characters. Going
on from there leaves the cursor where it is. -/
theorem jump_into_delimiter_stays :
    ∃ g cv' t, compile (Block.grammar "//") = .ok g ∧
      (pressAll [nextKey] (opened g "//\r\n".toUTF8)).1.tokenAtCursor = .ok (cv', some t) ∧
      t.stop = 3 ∧ (pressAll [nextKey] (opened g "//\r\n".toUTF8)).1.offset = .ok 2 ∧
      (pressAll [nextKey, nextKey] (opened g "//\r\n".toUTF8)).1.offset = .ok 2 := by
  obtain ⟨g, hg, htest⟩ := exists_compiled (Block.grammar "//")
    (fun g ↦ ((pressAll [nextKey] (opened g "//\r\n".toUTF8)).1.tokenAtCursor.toOption.any
        fun r ↦ r.2.any (·.stop == 3)) &&
      decide ((pressAll [nextKey] (opened g "//\r\n".toUTF8)).1.offset = .ok 2) &&
      decide ((pressAll [nextKey, nextKey] (opened g "//\r\n".toUTF8)).1.offset = .ok 2))
    (by decide +kernel)
  simp only [Bool.and_eq_true, decide_eq_true_eq] at htest
  obtain ⟨⟨htoken, hbefore⟩, hbehind⟩ := htest
  obtain ⟨⟨cv', token?⟩, hcv', hfound⟩ := Succeeds.of_any htoken
  obtain ⟨t, rfl, ht⟩ := (Option.any_eq_true _ _).mp hfound
  exact ⟨g, cv', t, hg, hcv', of_decide_eq_true ht, hbefore, hbehind⟩

/-- Going back makes progress. Whatever keys were pressed before, in a file that is scanned without
an error the cursor goes back further to the front, so that it is at the start after as many times
as there are bytes in front of it. -/
theorem previous_makes_progress (h : cv.Browses contents (some l) maxDepth)
    (hscan : (scan l.grammar maxDepth contents).2 = none) (keys : List KeyPress) (s : Screen) :
    ∃ pos, (pressAll keys (cv, s)).1.offset = .ok pos ∧
      (0 < pos → (pressAll keys (cv, s)).1.Handles previousKey (pressAll keys (cv, s)).2
        fun moved ↦ ∃ pos' < pos, moved.offset = .ok pos') ∧
      ∀ n, pos ≤ n →
        (pressAll (keys ++ List.replicate n previousKey) (cv, s)).1.offset = .ok 0 := by
  have hreached := Browses.pressAll (r := (cv, s)) h keys
  obtain ⟨pos, hpos, -⟩ := hreached.standsIn.offset_succeeds
  refine ⟨pos, hpos, fun hlt ↦ ?_, fun n hn ↦ ?_⟩
  · refine (hreached.previous_progress hscan hpos _).imp fun moved ⟨_, pos', hle, hpos'⟩ ↦ ?_
    exact ⟨pos', by omega, hpos'⟩
  · rw [pressAll, List.foldl_append]
    exact pressAll_previous hreached hscan hpos hn

/-- Going back leaves the middle of a delimiter, into which going on has led. -/
theorem previous_makes_progress_delimiter :
    ∃ g pos, compile (Block.grammar "//") = .ok g ∧ (scan g 0 "//\r\n".toUTF8).2 = none ∧
      (pressAll [nextKey, nextKey] (opened g "//\r\n".toUTF8)).1.cursor.col = 3 ∧
      (pressAll [nextKey, nextKey] (opened g "//\r\n".toUTF8)).1.offset = .ok pos ∧ 0 < pos ∧
      (pressAll [nextKey, nextKey] (opened g "//\r\n".toUTF8)).1.Handles previousKey
        (pressAll [nextKey, nextKey] (opened g "//\r\n".toUTF8)).2
        fun moved ↦ ∃ pos' < pos, moved.offset = .ok pos' := by
  obtain ⟨g, hg, htest⟩ := exists_compiled (Block.grammar "//")
    (fun g ↦ decide ((scan g 0 "//\r\n".toUTF8).2 = none) &&
      decide ((pressAll [nextKey, nextKey] (opened g "//\r\n".toUTF8)).1.cursor.col = 3) &&
      decide ((pressAll [nextKey, nextKey] (opened g "//\r\n".toUTF8)).1.offset = .ok 2))
    (by decide +kernel)
  simp only [Bool.and_eq_true, decide_eq_true_eq] at htest
  obtain ⟨⟨hscan, hcol⟩, hoffset⟩ := htest
  have hopened := browses_new "a" "//\r\n".toUTF8 (some (.ofGrammar g))
  obtain ⟨pos, hpos, hprogress, -⟩ :=
    previous_makes_progress hopened hscan [nextKey, nextKey] (Screen.empty 4 2)
  have htwo : pos = 2 := Except.ok.inj (hpos.symm.trans hoffset)
  have hlt : 0 < pos := by omega
  exact ⟨g, pos, hg, hscan, hcol, hpos, hlt, hprogress hlt⟩

end CodeView

end CodeViewer
