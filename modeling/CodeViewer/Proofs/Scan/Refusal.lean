import CodeViewer.Proofs.Grammar.Places
import CodeViewer.Proofs.Scan.Arbitration
import CodeViewer.Proofs.Scan.DepthLimit
import CodeViewer.Proofs.Scan.Tiling

/-!
# Modes that are refused

A mode is refused if it would nest too deeply or if its text must not start as it does. By then
the step has gone past the text that opens the mode, but no token has been emitted for it: the
tokens of the scan end where that text begins.
-/

namespace CodeViewer

open Text (Source)

/-- Whether an error refuses a mode. -/
def ScanError.isRefusal : ScanError → Bool
  | .tooDeep .. => true
  | .illegalEntry .. => true
  | _ => false

/-- Searches refuse no mode. -/
theorem CompiledGrammar.SearchError.isRefusal_eq_false {g : CompiledGrammar} {src : Source}
    {start : Nat} {e : ScanError} (h : g.SearchError src start e) : e.isRefusal = false := by
  cases h with
  | @pattern p pos b _ _ _ _ => cases b <;> rfl
  | name _ _ _ => rfl
  | overrun _ _ _ _ _ => rfl

namespace Scan

open ModeStack

variable {g : CompiledGrammar} {src : Source} {maxDepth : Int} {s s' : ScanState} {m : Mode}
  {e : ScanError}

/-! ### Where a step refuses a mode -/

/-- A step takes the match that opens the mode of a rule. -/
structure Opens (g : CompiledGrammar) (src : Source) (s : ScanState) (r : CompiledRule)
    (stop : Nat) : Prop where
  applies : r ∈ s.stack.top.visible
  opensMode : r.opensMode = true
  found : ∃ n, stop = s.pos + n ∧ MatchesAt src r.head.start s.pos n
  taken : ∃ c, candidate? g src s.stack.top s.pos = .ok (some c) ∧ c.rule = some r

private theorem emit_isRefusal {cls : Class} {start stop : Nat}
    (h : emit src cls start stop = .failed e) : e.isRefusal = false := by
  unfold emit at h
  split at h
  · cases h
    rfl
  · cases h

private theorem pop_isRefusal {stack : ModeStack} (h : stack.pop = .error e) :
    e.isRefusal = false := by
  obtain ⟨-, rfl⟩ := ModeStack.pop_eq_error.mp h
  rfl

private theorem closeMode_isRefusal {n : Nat} (h : (closeMode src s m n).1 = .failed e) :
    e.isRefusal = false := by
  unfold closeMode at h
  split at h
  · next hpop =>
    cases h
    exact pop_isRefusal hpop
  · split at h
    · next hpop =>
      cases h
      split at hpop
      · exact pop_isRefusal hpop
      · cases hpop
    · split at h
      · cases h
      · exact emit_isRefusal h

private theorem unmatched_isRefusal {parents : List Mode} (hm : m.BelongsTo g)
    (hparents : ∀ p ∈ parents, p.BelongsTo g) (hpos : s.pos < src.size)
    (h : (unmatched g src s m parents).1 = .failed e) : e.isRefusal = false := by
  unfold unmatched at h
  split at h
  · exact emit_isRefusal h
  · split at h
    · next he =>
      cases h
      have hend := absorbedEnd_yields (src.size - (s.pos + 1)) hm hparents
        (Nat.succ_le_of_lt hpos)
      exact (hend.error he).isRefusal_eq_false
    · exact emit_isRefusal h

private theorem take_refused {c : Candidate} (h : take src s c = (.failed e, s'))
    (he : e.isRefusal = true) : ∃ r, c.rule = some r ∧ r.opensMode = true ∧
      enter src s r (s.pos + c.length) = (.failed e, s') := by
  -- An emitted token is no refusal.
  have hemit {cls : Class} {start stop : Nat} {st : ScanState}
      (h : (emit src cls start stop, st) = (.failed e, s')) : False := by
    have hfalse := emit_isRefusal (congrArg Prod.fst h)
    rw [he] at hfalse
    cases hfalse
  unfold take at h
  split at h
  · exact (hemit h).elim
  · next r hrule =>
    split at h
    · next mode haction =>
      exact ⟨r, hrule, by simp [CompiledRule.opensMode, haction], h⟩
    · next endsParent haction =>
      split at h
      · next e' hpop =>
        split at hpop
        · cases h
          have hfalse := pop_isRefusal hpop
          split at he
          · cases he
          · rw [he] at hfalse
            cases hfalse
        · cases hpop
      · exact (hemit h).elim

private theorem advance_refused {parents : List Mode} (hs : s.stack.BelongsTo g)
    (hparents : ∀ p ∈ parents, p.BelongsTo g) (hpos : s.pos < src.size)
    (h : advance g src s s.stack.top parents = (.failed e, s')) (he : e.isRefusal = true) :
    ∃ r stop, Opens g src s r stop ∧ enter src s r stop = (.failed e, s') := by
  have hyields := candidate?_yields hs.top (Nat.le_of_lt hpos)
  unfold advance at h
  split at h
  · next hc =>
    cases h
    have hfalse := (hyields.error hc).isRefusal_eq_false
    rw [he] at hfalse
    cases hfalse
  · next c hc =>
    have hmatch := hyields.ok hc c rfl
    obtain ⟨r, hrule, hopens, henter⟩ := take_refused h he
    obtain ⟨hvisible, -, hfound⟩ := hmatch.rule r hrule
    refine ⟨r, _, ⟨hvisible, hopens, ?_, ⟨c, hc, hrule⟩⟩, henter⟩
    exact ⟨c.length, rfl, hfound, hmatch.length_pos⟩
  · have hfalse := unmatched_isRefusal hs.top hparents hpos (congrArg Prod.fst h)
    rw [he] at hfalse
    cases hfalse

/-- A step refuses a mode only where it takes the match that opens it. -/
theorem step_refused (hs : s.stack.BelongsTo g) (hpos : s.pos < src.size)
    (h : step g src s = (.failed e, s')) (he : e.isRefusal = true) :
    ∃ r stop, Opens g src s r stop ∧ enter src s r stop = (.failed e, s') := by
  have hsearch (hsearch : g.SearchError src s.pos e) : False := by
    have hfalse := hsearch.isRefusal_eq_false
    rw [he] at hfalse
    cases hfalse
  unfold step at h
  split at h
  · next hnil =>
    have htop : s.stack.top = s.stack.root := by simp [ModeStack.top, hnil]
    rw [← htop] at h
    exact advance_refused hs (by simp) hpos h he
  · next m parents ho =>
    have htop : s.stack.top = m := by simp [ModeStack.top, ho]
    have hm : m.BelongsTo g := hs.opened m (by simp [ho])
    have hparents : ∀ p ∈ parents, p.BelongsTo g := fun p hp ↦ hs.opened p (by simp [ho, hp])
    split at h
    · next hfinish =>
      cases h
      exact (hsearch ((finish_yields hm (Nat.le_of_lt hpos)).error hfinish)).elim
    · have hfalse := closeMode_isRefusal (congrArg Prod.fst h)
      rw [he] at hfalse
      cases hfalse
    · split at h
      · next hended =>
        cases h
        split at hended
        · exact (hsearch ((parentEnds_yields hparents (Nat.le_of_lt hpos)).error hended)).elim
        · cases hended
      · cases h
      · rw [← htop] at h
        exact advance_refused hs hparents hpos h he

/-! ### Why an entrance is refused -/

/-- The text at a place is what a mode must not start with. -/
def IllegalAt (src : Source) (m : ModeSpec) (pos : Nat) : Prop :=
  ∃ p n, m.illegal = some p ∧ p.matchLength? src.chars pos = .ok (some n)

private theorem checkIllegal_refused (hm : m.BelongsTo g) {pos : Nat} (hpos : pos ≤ src.size)
    (h : checkIllegal src m pos = .error e) (he : e.isRefusal = true) :
    IllegalAt src m.spec pos ∧ ∃ text, e = .illegalEntry m.spec.cls (src.offset pos) text := by
  rcases (checkIllegal_yields hm hpos).error h with hsearch | ⟨n, text, hn, -, rfl⟩
  · have hfalse := hsearch.isRefusal_eq_false
    rw [he] at hfalse
    cases hfalse
  · refine ⟨?_, text, rfl⟩
    unfold optionalAt? at hn
    split at hn
    · cases hn
    · next p hp => exact ⟨p, n, hp, lengthAt?_eq_ok.mp hn⟩

/-- How a mode is refused: there are as many modes as there may be, and the state keeps them, or the
text behind the one that opens the mode is illegal for it. -/
inductive Refused (src : Source) (s : ScanState) (r : CompiledRule) (stop : Nat) :
    ScanError → ScanState → Prop where
  | tooDeep : s.stack.limit ≤ s.stack.depth →
      Refused src s r stop (.tooDeep s.stack.limit (src.offset s.pos) r.head.cls) ⟨s.stack, stop⟩
  | illegal {text : String} {s' : ScanState} : stop ≤ src.size → IllegalAt src r.modeSpec stop →
      Refused src s r stop (.illegalEntry r.modeSpec.cls (src.offset stop) text) s'

/-- An entrance that is refused is refused for one of two reasons. -/
theorem enter_refused {r : CompiledRule} {stop : Nat} (hs : s.stack.BelongsTo g)
    (hr : r ∈ s.stack.top.visible) (h : enter src s r stop = (.failed e, s'))
    (he : e.isRefusal = true) : Refused src s r stop e s' := by
  unfold enter at h
  split at h
  · next hpush =>
    obtain ⟨hfull, rfl⟩ := ModeStack.push_eq_error.mp hpush
    cases h
    exact .tooDeep hfull
  · next stack hpush =>
    obtain ⟨-, rfl⟩ := ModeStack.push_eq_ok.mp hpush
    split at h
    · cases h
      cases he
    · next hle =>
      have hstop : stop ≤ src.size := Nat.not_lt.mp hle
      split at h
      · next hcheck =>
        cases h
        obtain ⟨hillegal, text, rfl⟩ := checkIllegal_refused (hs.enter hr).top hstop hcheck he
        rw [top_enter, spec_inner] at hillegal ⊢
        exact .illegal hstop hillegal
      · have hfalse := emit_isRefusal (congrArg Prod.fst h)
        rw [he] at hfalse
        cases hfalse

end Scan

namespace Scanner

open Scan

variable {g : CompiledGrammar} {maxDepth : Int} {text : ByteArray} {tokens : List Token}
  {s : Scanner} {e : ScanError}

/-! ### The scan that ends with it -/

private theorem nextEach_of_stopped {s : Scanner} {e? : Option ScanError}
    (h : s.status = .stopped e?)
    (calls : List Bool) : s.nextEach calls = ([], s) := by
  have hnext (cancelled : Bool) : s.next cancelled = (none, s) := by simp [next, h]
  induction calls with
  | nil => rfl
  | cons cancelled rest ih => simp [nextEach, hnext, ih]

private theorem nextEach_append (s : Scanner) (calls later : List Bool) :
    s.nextEach (calls ++ later) =
      ((s.nextEach calls).1 ++ ((s.nextEach calls).2.nextEach later).1,
        ((s.nextEach calls).2.nextEach later).2) := by
  induction calls generalizing s with
  | nil => rfl
  | cons cancelled rest ih => simp [nextEach, ih, List.append_assoc]

/-- Behind a scan that is over no token is current. -/
theorem Follows.token_eq_none {src : Source} (h : Follows g maxDepth src tokens s)
    (hs : ∀ e, s.status = .stopped e → s.token = Token.none) (calls : List Bool)
    {e? : Option ScanError} (hended : (s.nextEach calls).2.status = .stopped e?) :
    (s.nextEach calls).2.token = Token.none := by
  induction calls generalizing s tokens with
  | nil => exact hs e? hended
  | cons cancelled rest ih =>
    refine ih (h.next cancelled) (fun e hstopped ↦ ?_) hended
    rw [(h.answers cancelled).token_eq hs]
    cases htoken : (s.next cancelled).1 with
    | none => rfl
    | some t =>
      rw [(h.answers cancelled).running htoken] at hstopped
      cases hstopped

private theorem Follows.refused (h : Follows g maxDepth (Source.ofText text) tokens s)
    (he : s.error? = some e) (hrefusal : e.isRefusal = true) :
    (tokens = [] ∧ IllegalAt (Source.ofText text) g.root 0 ∧
        ∃ found, e = .illegalEntry g.root.cls 0 found) ∨
      ∃ st r stop, Reaches g maxDepth (Source.ofText text) st ∧
        Opens g (Source.ofText text) st r stop ∧
        Refused (Source.ofText text) st r stop e s.state ∧
        Tiles text 0 tokens ((Source.ofText text).offset st.pos) := by
  have hcanceled : e ≠ .canceled := by
    rintro rfl
    cases hrefusal
  obtain ⟨st, hreach, htiles, ⟨hnil, rfl, hcheck⟩ | ⟨hleft, hfailed⟩⟩ :=
    h.tiles_error he hcanceled
  · obtain ⟨hillegal, found, rfl⟩ :=
      checkIllegal_refused hreach.belongsTo.top (Nat.zero_le _) hcheck hrefusal
    refine .inl ⟨hnil, hillegal, found, ?_⟩
    rw [start, Source.offset_zero]
    rfl
  · obtain ⟨r, stop, hopens, henter⟩ := step_refused hreach.belongsTo hleft hfailed hrefusal
    exact .inr ⟨st, r, stop, hreach, hopens,
      enter_refused hreach.belongsTo hopens.applies henter hrefusal, htiles⟩

/-- A scan that ends because modes nest too deeply has as many of them open as there may be. -/
theorem Follows.tooDeep (h : Follows g maxDepth (Source.ofText text) tokens s) {limit : Nat}
    {offset : Int} {cls : Class} (he : s.error? = some (.tooDeep limit offset cls)) :
    limit = effectiveLimit maxDepth ∧ s.depth = limit ∧
      ∃ st r stop, Reaches g maxDepth (Source.ofText text) st ∧
        Opens g (Source.ofText text) st r stop ∧ r.head.cls = cls ∧
        offset = (Source.ofText text).offset st.pos ∧
        Tiles text 0 tokens ((Source.ofText text).offset st.pos) := by
  rcases h.refused he rfl with
    ⟨-, -, found, hfound⟩ | ⟨st, r, stop, hreach, hopens, hrefused, htiles⟩
  · cases hfound
  · obtain ⟨hlimit, hdepth⟩ := hreach.depth_le
    generalize hstate : s.state = state at hrefused
    cases hrefused with
    | tooDeep hfull =>
      have hopen : s.depth = st.stack.depth := by rw [Scanner.depth, hstate]
      refine ⟨hlimit, hopen.trans (Nat.le_antisymm hdepth hfull), ?_⟩
      exact ⟨st, r, stop, hreach, hopens, rfl, rfl, htiles⟩

/-- A scan that ends because of illegal text ends behind the match that opens the mode. -/
theorem Follows.illegalEntry {gr : Grammar} (hg : compile gr = .ok g)
    (h : Follows g maxDepth (Source.ofText text) tokens s) {cls : Class} {offset : Nat}
    {found : String} (he : s.error? = some (.illegalEntry cls offset found)) :
    (cls = "" ∧ offset = 0 ∧ tokens = [] ∧ IllegalAt (Source.ofText text) g.root 0) ∨
      (cls ≠ "" ∧ ∃ st r stop, Reaches g maxDepth (Source.ofText text) st ∧
        Opens g (Source.ofText text) st r stop ∧ r.head.cls = cls ∧
        IllegalAt (Source.ofText text) r.modeSpec stop ∧
        offset = (Source.ofText text).offset stop ∧
        (Source.ofText text).offset st.pos < offset ∧
        Tiles text 0 tokens ((Source.ofText text).offset st.pos)) := by
  rcases h.refused he rfl with
    ⟨hnil, hillegal, found', hfound⟩ | ⟨st, r, stop, hreach, hopens, hrefused, htiles⟩
  · cases hfound
    obtain ⟨-, -, illegal, hroot⟩ := compile_ok hg
    exact .inl ⟨by rw [hroot]; rfl, rfl, hnil, hillegal⟩
  · have hclass := compile_hasClass hg r (hreach.belongsTo.top.visible r hopens.applies)
    obtain ⟨n, hstop, hmatch⟩ := hopens.found
    cases hrefused with
    | illegal hle hillegal =>
      have hlt : st.pos < stop := by
        have hpositive := hmatch.2
        omega
      refine .inr ⟨hclass.2 ▸ hclass.1, st, r, stop, hreach, hopens, hclass.2.symm, hillegal, rfl,
        ?_, htiles⟩
      exact Source.offset_lt_offset text hlt hle

/-- A mode that is refused ends the scan in front of the text that opens it. Whatever calls are
made: if they end because modes nest too deeply, as many are open as there may be, and the tokens
handed out make up the text up to where the rule of the refused mode begins to match. If they end
because of illegal text, either it stands at the start of the whole text and there are no tokens,
or the tokens make up the text up to the match that opens the mode, behind which the illegal text
stands. Further calls hand out nothing, and no token is current behind them. -/
theorem refused_mode_ends_scan {gr : Grammar} {g : CompiledGrammar} (hg : compile gr = .ok g)
    (maxDepth : Int) (text : ByteArray) (calls : List Bool) :
    (∀ limit offset cls,
      ((ofText g maxDepth text).nextEach calls).2.error? = some (.tooDeep limit offset cls) →
        limit = effectiveLimit maxDepth ∧
        ((ofText g maxDepth text).nextEach calls).2.depth = limit ∧
        ∃ st r stop, Reaches g maxDepth (Source.ofText text) st ∧
          Opens g (Source.ofText text) st r stop ∧ r.head.cls = cls ∧
          offset = (Source.ofText text).offset st.pos ∧
          Tiles text 0 ((ofText g maxDepth text).nextEach calls).1
            ((Source.ofText text).offset st.pos)) ∧
    (∀ cls offset found,
      ((ofText g maxDepth text).nextEach calls).2.error? =
          some (.illegalEntry cls offset found) →
        (cls = "" ∧ offset = 0 ∧ ((ofText g maxDepth text).nextEach calls).1 = [] ∧
          IllegalAt (Source.ofText text) g.root 0) ∨
        (cls ≠ "" ∧ ∃ st r stop, Reaches g maxDepth (Source.ofText text) st ∧
          Opens g (Source.ofText text) st r stop ∧ r.head.cls = cls ∧
          IllegalAt (Source.ofText text) r.modeSpec stop ∧
          offset = (Source.ofText text).offset stop ∧
          (Source.ofText text).offset st.pos < offset ∧
          Tiles text 0 ((ofText g maxDepth text).nextEach calls).1
            ((Source.ofText text).offset st.pos))) ∧
    (∀ e, ((ofText g maxDepth text).nextEach calls).2.error? = some e → e.isRefusal = true →
      ∀ later,
        (ofText g maxDepth text).nextEach (calls ++ later) =
            (ofText g maxDepth text).nextEach calls ∧
          ((ofText g maxDepth text).nextEach (calls ++ later)).2.token = Token.none) := by
  have hfollows := nextEach_follows g maxDepth text calls
  refine ⟨fun limit offset cls he ↦ hfollows.tooDeep he,
    fun cls offset found he ↦ hfollows.illegalEntry hg he, ?_⟩
  intro e he _ later
  have hstopped : ((ofText g maxDepth text).nextEach calls).2.status = .stopped (some e) := by
    unfold error? at he
    split at he
    · next hstatus => rw [hstatus, he]
    · cases he
  have hsame : (ofText g maxDepth text).nextEach (calls ++ later) =
      (ofText g maxDepth text).nextEach calls := by
    rw [nextEach_append, nextEach_of_stopped hstopped, List.append_nil]
  refine ⟨hsame, ?_⟩
  rw [hsame]
  exact (follows_ofText g maxDepth text).token_eq_none (fun e he ↦ nomatch he) calls hstopped

/-- A block inside a block is refused where only one may be open. -/
theorem refused_mode_ends_scan_nestedBlocks :
    ∃ g, compile nestedBlocks = .ok g ∧
      ((ofText g 1 "<;<(".toUTF8).nextEach [false, false, false, false]).2.error? =
          some (.tooDeep 1 3 "inner") ∧
        ((ofText g 1 "<;<(".toUTF8).nextEach [false, false, false, false]).2.depth = 1 ∧
        Tiles "<;<(".toUTF8 0
          ((ofText g 1 "<;<(".toUTF8).nextEach [false, false, false, false]).1 3 := by
  obtain ⟨g, hg, hended⟩ := exists_compiled nestedBlocks
    (fun g ↦ ((ofText g 1 "<;<(".toUTF8).nextEach [false, false, false, false]).2.error? ==
      some (.tooDeep 1 3 "inner")) (by decide +kernel)
  have he := eq_of_beq hended
  obtain ⟨hdeep, -, -⟩ := refused_mode_ends_scan hg 1 "<;<(".toUTF8 [false, false, false, false]
  obtain ⟨-, hdepth, st, r, stop, -, -, -, hoffset, htiles⟩ := hdeep 1 3 "inner" he
  rw [← Int.ofNat.inj hoffset] at htiles
  exact ⟨g, hg, he, hdepth, htiles⟩

end Scanner

end CodeViewer
