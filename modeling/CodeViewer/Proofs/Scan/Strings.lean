import CodeViewer.Proofs.Grammar.DelimitedString
import CodeViewer.Proofs.Scan.Stray

/-!
# Strings end at the first unescaped quote

Inside a string the scan looks for the closing quote first, then for a backslash with a character
behind it, and takes everything else up to the next of these, or up to a stray character, for one
token. The quote it stops at is therefore the first one that is reached by passing over each such
pair as a whole and over every other character by itself.
-/

namespace CodeViewer

open Text (Source)

/-- The number of characters in front of the first quote that is reached by passing over two
characters at a backslash that has a character behind it, and over one character elsewhere. -/
def closingQuote? (quote : Char) : List Char → Option Nat
  | [] => none
  | [c] => if c = quote then some 0 else none
  | c :: d :: rest =>
    if c = quote then some 0
    else if c = '\\' then (closingQuote? quote rest).map (· + 2)
    else (closingQuote? quote (d :: rest)).map (· + 1)

namespace Scan

variable {g : CompiledGrammar} {src : Source} {quote : Char} {r : CompiledRule} {base : ModeStack}
  {pos i stop : Nat} {ts : List Token}

/-- A character inside a string that is nothing in particular: it is neither the quote nor a stray
character, and no escape begins with it. -/
structure IsPlain (src : Source) (quote : Char) (i : Nat) : Prop where
  left : i < src.size
  notStray : strayAt src i = false
  notQuote : src.chars[i]? ≠ some quote
  notPair : ¬ IsPair src.chars i

/-- The tokens of the text inside a string, from one place up to another: one for each backslash
with a character behind it, one for each stray character, and one for all plain characters in a
row. -/
inductive StringBody (src : Source) (quote : Char) : Nat → List Token → Nat → Prop where
  | nil (i : Nat) : StringBody src quote i [] i
  | pair {i : Nat} {ts : List Token} {stop : Nat} : IsPair src.chars i →
      StringBody src quote (i + 2) ts stop →
      StringBody src quote i (token src Class.escape i (i + 2) :: ts) stop
  | stray {i : Nat} {ts : List Token} {stop : Nat} : i < src.size → strayAt src i = true →
      StringBody src quote (i + 1) ts stop →
      StringBody src quote i (token src Class.unknown i (i + 1) :: ts) stop
  | run {i j : Nat} {ts : List Token} {stop : Nat} : i < j →
      (∀ k, i ≤ k → k < j → IsPlain src quote k) → ¬ IsPlain src quote j →
      StringBody src quote j ts stop →
      StringBody src quote i (token src Class.string i j :: ts) stop

/-- A character that strings may end with: it is not stray, and no escape begins with it. -/
structure IsQuote (quote : Char) : Prop where
  notStray : isStray quote = false
  notBackslash : quote ≠ '\\'

private theorem isQuote_of_quotes {rule : Rule} (h : Block.Quotes rule quote) : IsQuote quote := by
  cases h with
  | quote => exact ⟨by decide, by decide⟩
  | apos => exact ⟨by decide, by decide⟩

/-! ### Places inside a string -/

private theorem not_pair_of_quote (hq : IsQuote quote) (h : src.chars[i]? = some quote) :
    ¬ IsPair src.chars i := by
  rintro ⟨hback, -⟩
  exact hq.notBackslash (Option.some.inj (h.symm.trans hback))

private theorem not_quote_of_pair (hq : IsQuote quote) (h : IsPair src.chars i) :
    src.chars[i]? ≠ some quote :=
  fun hquote ↦ not_pair_of_quote hq hquote h

private theorem not_quote_of_stray (hq : IsQuote quote) (h : strayAt src i = true) :
    src.chars[i]? ≠ some quote := by
  intro hquote
  rw [strayAt, hquote, Option.any_some, hq.notStray] at h
  cases h

private theorem not_pair_of_stray (h : strayAt src i = true) : ¬ IsPair src.chars i := by
  rintro ⟨hback, -⟩
  have hplain : isStray '\\' = false := by decide
  rw [strayAt, hback, Option.any_some, hplain] at h
  cases h

/-! ### The mode of a string -/

section

variable (h : r.OpensStrings quote)

include h

private theorem finish_string (src : Source) (pos : Nat) :
    optionalAt? src r.modeSpec.finish pos =
      .ok (if src.chars[pos]? = some quote then some 1 else none) := by
  obtain ⟨p, hp, hfinds⟩ := h.finish
  rw [hp]
  exact lengthAt?_eq_ok.mpr (hfinds src.chars pos)

/-- Inside a string only an escape is a candidate. -/
theorem candidate_string (g : CompiledGrammar) (src : Source) (base : ModeStack) (pos : Nat) :
    ∃ c e, candidate? g src (ModeStack.inner base.top r) pos =
        .ok (if IsPair src.chars pos then some c else none) ∧
      c.rule = some e ∧ e.head.action = .emit false ∧ c.cls = Class.escape ∧ c.length = 2 := by
  obtain ⟨e, hcontains, hcls, haction, hfinds⟩ := h.contains
  have hcategories : (ModeStack.inner base.top r).categories = false := by
    simp only [ModeStack.inner, h.noInherit, ite_true, h.useCategories]
  have hvisible : (ModeStack.inner base.top r).visible = [e] := by
    simp only [ModeStack.visible_inner, innerRules, h.noInherit, ite_true, hcontains]
  have hlength := lengthAt?_eq_ok.mpr (hfinds src.chars pos)
  let rank := if e.head.literal then g.rank e.head.cls else g.categories.length + 1
  refine ⟨⟨some e, e.head.cls, 2, rank⟩, e, ?_, rfl, haction, hcls, rfl⟩
  unfold candidate?
  rw [hvisible, hcategories, bestRule, Bool.and_false, if_neg Bool.false_ne_true]
  simp only [ruleCandidate?, hlength]
  split <;> rfl

/-! ### The steps inside a string -/

/-- A quote closes the string. -/
theorem moves_quote (g : CompiledGrammar) (base : ModeStack) (hleft : pos < src.size)
    (hquote : src.chars[pos]? = some quote) :
    Moves g src ⟨base.enter r, pos⟩ (some (token src Class.string pos (pos + 1)))
      ⟨base, pos + 1⟩ := by
  have hfinish := finish_string h src pos
  rw [if_pos hquote] at hfinish
  have hstep : step g src ⟨base.enter r, pos⟩ =
      closeMode src ⟨base.enter r, pos⟩ (ModeStack.inner base.top r) 1 := by
    simp only [step, ModeStack.enter, ModeStack.spec_inner, hfinish]
  have hinside : pos + 1 ≤ src.size := hleft
  refine ⟨hleft, ?_⟩
  rw [hstep]
  simp [closeMode, ModeStack.pop, ModeStack.enter, h.endsParent, h.returnEnd, h.excludeEnd, h.cls,
    emit, outcomeOf, Nat.not_lt.mpr hinside]

/-- A backslash and the character behind it are an escape. -/
theorem moves_pair (hq : IsQuote quote) (g : CompiledGrammar) (base : ModeStack)
    (hpair : IsPair src.chars pos) :
    Moves g src ⟨base.enter r, pos⟩ (some (token src Class.escape pos (pos + 2)))
      ⟨base.enter r, pos + 2⟩ := by
  have hfinish := finish_string h src pos
  rw [if_neg (not_quote_of_pair hq hpair)] at hfinish
  obtain ⟨c, e, hcandidate, hrule, haction, hcls, hlength⟩ := candidate_string h g src base pos
  rw [if_pos hpair] at hcandidate
  have hstep : step g src ⟨base.enter r, pos⟩ = take src ⟨base.enter r, pos⟩ c := by
    simp [step, ModeStack.enter, hfinish, h.endsWithParent, advance, hcandidate]
  have hinside : pos + 2 ≤ src.size := hpair.2
  refine ⟨Nat.lt_of_succ_lt hinside, ?_⟩
  rw [hstep]
  simp [take, hrule, haction, hcls, hlength, emit, outcomeOf, Nat.not_lt.mpr hinside]

/-- Nothing happens inside a string where neither a quote nor an escape stands. -/
theorem quiet_string_iff : Quiet g src (ModeStack.inner base.top r) base.opened pos ↔
    src.chars[pos]? ≠ some quote ∧ ¬ IsPair src.chars pos := by
  have hend := finish_string h src pos
  obtain ⟨c, e, hfound, -⟩ := candidate_string h g src base pos
  constructor
  · rintro ⟨hfinish, -, hcandidate⟩
    rw [ModeStack.spec_inner, hend] at hfinish
    rw [hfound] at hcandidate
    refine ⟨fun hquote ↦ ?_, fun hpair ↦ ?_⟩
    · simp [hquote] at hfinish
    · simp [hpair] at hcandidate
  · rintro ⟨hquote, hpair⟩
    rw [if_neg hquote] at hend
    rw [if_neg hpair] at hfound
    refine ⟨?_, ?_, hfound⟩
    · rw [ModeStack.spec_inner, hend]
    · rw [ModeStack.spec_inner, h.endsWithParent]
      rfl

private theorem happensAt_string (g : CompiledGrammar) (base : ModeStack) :
    happensAt g src (ModeStack.inner base.top r) base.opened pos =
      .ok (decide (src.chars[pos]? = some quote ∨ IsPair src.chars pos)) := by
  obtain ⟨c, e, hcandidate, -⟩ := candidate_string h g src base pos
  rw [happensAt_eq, ModeStack.spec_inner, finish_string h src pos, hcandidate, h.endsWithParent]
  by_cases hquote : src.chars[pos]? = some quote
  · simp [hquote]
  · by_cases hpair : IsPair src.chars pos
    · simp [hquote, hpair, Except.map]
    · simp [hquote, hpair, Except.map]

/-- A stray character in a string is unknown. -/
theorem moves_stray (hq : IsQuote quote) (g : CompiledGrammar) (base : ModeStack)
    (hleft : pos < src.size) (hstray : strayAt src pos = true) :
    Moves g src ⟨base.enter r, pos⟩ (some (token src Class.unknown pos (pos + 1)))
      ⟨base.enter r, pos + 1⟩ := by
  have hquiet : Quiet g src (ModeStack.inner base.top r) base.opened pos :=
    (quiet_string_iff h).mpr ⟨not_quote_of_stray hq hstray, not_pair_of_stray hstray⟩
  exact ⟨hleft, Quiet.refuses (s := ⟨base.enter r, pos⟩) hquiet rfl hleft hstray⟩

/-- Plain characters in a row are one token. -/
theorem moves_run (g : CompiledGrammar) (base : ModeStack) (hplain : IsPlain src quote pos) :
    ∃ stop, (pos < stop ∧ stop ≤ src.size) ∧
      (∀ k, pos ≤ k → k < stop → IsPlain src quote k) ∧ ¬ IsPlain src quote stop ∧
      Moves g src ⟨base.enter r, pos⟩ (some (token src Class.string pos stop))
        ⟨base.enter r, stop⟩ := by
  have hleft := hplain.left
  have hquiet : Quiet g src (ModeStack.inner base.top r) base.opened pos :=
    (quiet_string_iff h).mpr ⟨hplain.notQuote, hplain.notPair⟩
  cases hend : absorbedEnd g src (ModeStack.inner base.top r) base.opened
      (src.size - (pos + 1)) (pos + 1) with
  | error e =>
    -- Looking ahead inside a string does not fail.
    obtain ⟨k, -, -, -, herror⟩ := absorbedEnd_eq_error hend
    rw [happensAt_string h g base] at herror
    cases herror
  | ok stop =>
    obtain ⟨⟨hlt, hle⟩, hrest, hmaximal⟩ := hquiet.absorbed hleft hplain.notStray hend
    refine ⟨stop, ⟨hlt, hle⟩, fun k hk hks ↦ ?_, fun hstop ↦ ?_, hleft, ?_⟩
    · obtain ⟨hstray, hnothing⟩ := hrest k hk hks
      obtain ⟨hquote, hpair⟩ := (quiet_string_iff h).mp hnothing
      exact ⟨by omega, hstray, hquote, hpair⟩
    · rcases hmaximal with hover | hstray | hhappens
      · exact absurd hstop.left (by omega)
      · rw [hstop.notStray] at hstray
        cases hstray
      · rw [happensAt_string h g base] at hhappens
        simp [hstop.notQuote, hstop.notPair] at hhappens
    · have habsorb : (ModeStack.inner base.top r).spec.absorb = true := by simp [h.absorb]
      have hcls : (ModeStack.inner base.top r).spec.cls = Class.string := by simp [h.cls]
      have hemits := (Quiet.absorbs (s := ⟨base.enter r, pos⟩) hquiet rfl habsorb hleft
        hplain.notStray hend hle).emits
      rw [hemits, ModeStack.top_enter, hcls]
      rfl

/-- From any place inside a string the scan goes on to a quote or to the end of the text. -/
theorem steps_string (hq : IsQuote quote) (g : CompiledGrammar) (base : ModeStack)
    (hpos : pos ≤ src.size) :
    ∃ ts stop, StringBody src quote pos ts stop ∧ stop ≤ src.size ∧
      (stop < src.size → src.chars[stop]? = some quote) ∧
      Steps g src ⟨base.enter r, pos⟩ (ts.map some) ⟨base.enter r, stop⟩ := by
  -- The induction is on the number of characters left.
  induction hleft : src.size - pos using Nat.strongRecOn generalizing pos with
  | ind left ih =>
    subst hleft
    by_cases hlt : pos < src.size
    · by_cases hquote : src.chars[pos]? = some quote
      · exact ⟨[], pos, .nil pos, hpos, fun _ ↦ hquote, .nil _⟩
      · by_cases hpair : IsPair src.chars pos
        · have hbehind : pos + 2 ≤ src.size := hpair.2
          obtain ⟨ts, stop, hbody, hstop, hend, hsteps⟩ := ih _ (by omega) hbehind rfl
          exact ⟨_, stop, .pair hpair hbody, hstop, hend,
            .cons (moves_pair h hq g base hpair) hsteps⟩
        · cases hstray : strayAt src pos with
          | true =>
            obtain ⟨ts, stop, hbody, hstop, hend, hsteps⟩ := ih _ (by omega) hlt rfl
            exact ⟨_, stop, .stray hlt hstray hbody, hstop, hend,
              .cons (moves_stray h hq g base hlt hstray) hsteps⟩
          | false =>
            obtain ⟨j, ⟨hj, hjle⟩, hrun, hmaximal, hmoves⟩ :=
              moves_run h g base ⟨hlt, hstray, hquote, hpair⟩
            obtain ⟨ts, stop, hbody, hstop, hend, hsteps⟩ := ih _ (by omega) hjle rfl
            exact ⟨_, stop, .run hj hrun hmaximal hbody, hstop, hend, .cons hmoves hsteps⟩
    · exact ⟨[], pos, .nil pos, hpos, fun hlt' ↦ absurd hlt' hlt, .nil _⟩

end

/-! ### The first unescaped quote -/

private theorem drop_chars {c : Char} (h : src.chars[i]? = some c) :
    src.chars.toList.drop i = c :: src.chars.toList.drop (i + 1) := by
  obtain ⟨hlt, hc⟩ := Array.getElem?_eq_some_iff.mp h
  rw [List.drop_eq_getElem_cons (by simpa using hlt), Array.getElem_toList, hc]

private theorem drop_chars_of_size_le (h : src.size ≤ i) : src.chars.toList.drop i = [] := by
  have hsize : src.chars.toList.length ≤ i := h
  exact List.drop_eq_nil_of_le hsize

/-- The search for the closing quote passes over the text from one place to another. -/
def PassesOver (src : Source) (quote : Char) (i j : Nat) : Prop :=
  i ≤ j ∧ closingQuote? quote (src.chars.toList.drop i) =
    (closingQuote? quote (src.chars.toList.drop j)).map (· + (j - i))

private theorem PassesOver.refl (src : Source) (quote : Char) (i : Nat) :
    PassesOver src quote i i :=
  ⟨Nat.le_refl i, by simp⟩

private theorem PassesOver.trans {j k : Nat} (h : PassesOver src quote i j)
    (h' : PassesOver src quote j k) :
    PassesOver src quote i k := by
  obtain ⟨hle, hpass⟩ := h
  obtain ⟨hle', hpass'⟩ := h'
  have hsum (n : Nat) : n + (k - j) + (j - i) = n + (k - i) := by omega
  refine ⟨Nat.le_trans hle hle', ?_⟩
  rw [hpass, hpass', Option.map_map]
  simp only [Function.comp_def, hsum]

private theorem passesOver_pair (hq : IsQuote quote) (h : IsPair src.chars i) :
    PassesOver src quote i (i + 2) := by
  obtain ⟨hback, hlt⟩ := h
  have hnext : src.chars[i + 1]? = some src.chars[i + 1] := by simp [hlt]
  refine ⟨Nat.le_add_right i 2, ?_⟩
  rw [drop_chars hback, drop_chars hnext, closingQuote?, if_neg (Ne.symm hq.notBackslash),
    if_pos rfl, Nat.add_sub_cancel_left]

private theorem passesOver_succ (hlt : i < src.size) (hquote : src.chars[i]? ≠ some quote)
    (hpair : ¬ IsPair src.chars i) : PassesOver src quote i (i + 1) := by
  change i < src.chars.size at hlt
  have hc : src.chars[i]? = some src.chars[i] := Array.getElem?_eq_getElem hlt
  have hne : src.chars[i] ≠ quote := fun he ↦ hquote (he ▸ hc)
  refine ⟨Nat.le_add_right i 1, ?_⟩
  rw [drop_chars hc, Nat.add_sub_cancel_left]
  by_cases hnext : i + 1 < src.chars.size
  · have hback : src.chars[i] ≠ '\\' := fun he ↦ hpair ⟨he ▸ hc, hnext⟩
    have hd : src.chars[i + 1]? = some src.chars[i + 1] := Array.getElem?_eq_getElem hnext
    rw [drop_chars hd, closingQuote?, if_neg hne, if_neg hback]
  · rw [drop_chars_of_size_le (Nat.not_lt.mp hnext)]
    simp [closingQuote?, hne]

private theorem passesOver_plain {j : Nat} (hle : i ≤ j)
    (h : ∀ k, i ≤ k → k < j → IsPlain src quote k) : PassesOver src quote i j := by
  induction hle with
  | refl => exact .refl src quote i
  | @step j hle ih =>
    have hplain := h j hle (Nat.lt_succ_self j)
    have hfront := ih fun k hk hkj ↦ h k hk (Nat.lt_succ_of_lt hkj)
    exact hfront.trans (passesOver_succ hplain.left hplain.notQuote hplain.notPair)

private theorem StringBody.passesOver (h : StringBody src quote i ts stop) (hq : IsQuote quote) :
    PassesOver src quote i stop := by
  induction h with
  | nil i => exact .refl src quote i
  | pair hpair _ ih => exact (passesOver_pair hq hpair).trans ih
  | stray hlt hstray _ ih =>
    have hquote := not_quote_of_stray hq hstray
    exact (passesOver_succ hlt hquote (not_pair_of_stray hstray)).trans ih
  | run hlt hplain _ _ ih => exact (passesOver_plain (Nat.le_of_lt hlt) hplain).trans ih

private theorem StringBody.tiles {text : ByteArray} {k : Nat} {last : List Token}
    (h : StringBody (Source.ofText text) quote i ts stop) (hstop : stop ≤ (Source.ofText text).size)
    (hlast : Tiles text ((Source.ofText text).offset stop) last k) :
    Tiles text ((Source.ofText text).offset i) (ts ++ last) k := by
  induction h with
  | nil i => exact hlast
  | pair hpair _ ih => exact tiles_token (by omega) hpair.2 (ih hstop hlast)
  | stray hlt _ _ ih => exact tiles_token (Nat.lt_succ_self _) hlt (ih hstop hlast)
  | @run i j ts stop hlt hplain _ _ ih =>
    have hj := (hplain (j - 1) (by omega) (by omega)).left
    exact tiles_token hlt (by omega) (ih hstop hlast)

/-- Strings end at the first unescaped quote. Where a grammar has a rule of strings between quotes,
it is compiled to a rule of this kind: in its mode, from any place of any text, the scan goes on to
the first quote that is reached by passing over a backslash and the character behind it together.
There is one token for each such pair, one for each stray character and one for all plain
characters in a row; the token of the quote closes the mode and no other. If there is no such quote
the tokens reach up to the end of the text. -/
theorem strings_end_at_first_unescaped_quote {gr : Grammar} (hg : compile gr = .ok g)
    {place : PlacedRule} (hplace : place ∈ gr.places) (hrule : Block.Quotes place.rule quote) :
    (∃ r ∈ g.allRules, place.CompilesTo gr.name r) ∧
    ∀ r, place.CompilesTo gr.name r → ∀ (text : ByteArray) (base : ModeStack) (p : Nat),
      p ≤ (Source.ofText text).size →
      match closingQuote? quote ((Source.ofText text).chars.toList.drop p) with
      | some n => ∃ ts,
        StringBody (Source.ofText text) quote p ts (p + n) ∧
        Steps g (Source.ofText text) ⟨base.enter r, p⟩ (ts.map some) ⟨base.enter r, p + n⟩ ∧
        Moves g (Source.ofText text) ⟨base.enter r, p + n⟩
          (some (token (Source.ofText text) Class.string (p + n) (p + n + 1)))
          ⟨base, p + n + 1⟩ ∧
        Tiles text ((Source.ofText text).offset p)
          (ts ++ [token (Source.ofText text) Class.string (p + n) (p + n + 1)])
          ((Source.ofText text).offset (p + n + 1))
      | none => ∃ ts,
        StringBody (Source.ofText text) quote p ts (Source.ofText text).size ∧
        Steps g (Source.ofText text) ⟨base.enter r, p⟩ (ts.map some)
          ⟨base.enter r, (Source.ofText text).size⟩ ∧
        Tiles text ((Source.ofText text).offset p) ts text.size := by
  refine ⟨exists_compilesTo hg hplace, fun r hr text base p hp ↦ ?_⟩
  have hopens := hr.opensStrings hrule
  have hq := isQuote_of_quotes hrule
  obtain ⟨ts, stop, hbody, hstop, hend, hsteps⟩ := steps_string hopens hq g base hp
  obtain ⟨hle, hclosing⟩ := hbody.passesOver hq
  rw [hclosing]
  by_cases hlt : stop < (Source.ofText text).size
  · have hquote := hend hlt
    have hfirst : closingQuote? quote ((Source.ofText text).chars.toList.drop stop) = some 0 := by
      rw [drop_chars hquote]
      cases (Source.ofText text).chars.toList.drop (stop + 1) <;> simp [closingQuote?]
    have hplaces : p + (0 + (stop - p)) = stop := by omega
    rw [hfirst, Option.map_some]
    simp only [hplaces]
    exact ⟨ts, hbody, hsteps, moves_quote hopens g base hlt hquote,
      hbody.tiles hstop (tiles_token (Nat.lt_succ_self _) hlt rfl)⟩
  · obtain rfl : stop = (Source.ofText text).size := by omega
    rw [drop_chars_of_size_le (Nat.le_refl _), closingQuote?, Option.map_none]
    refine ⟨ts, hbody, hsteps, ?_⟩
    rw [← List.append_nil ts]
    exact hbody.tiles hstop (Source.offset_size text)

/-- A string with an escaped quote and an escaped backslash, and a letter behind it. -/
def escapesText : ByteArray := "\"a\\\"b\\\\\"c".toUTF8

/-- A string with an escaped quote and an escaped backslash ends behind both. -/
theorem strings_end_at_first_unescaped_quote_escapes :
    ∃ g, compile (Block.grammar "#") = .ok g ∧ ∃ place ∈ (Block.grammar "#").places,
      Block.Quotes place.rule '"' ∧ ∃ r ∈ g.allRules, place.CompilesTo "blocks" r ∧ ∃ ts,
        StringBody (Source.ofText escapesText) '"' 1 ts 7 ∧
        Steps g (Source.ofText escapesText) ⟨(ModeStack.ofGrammar g 0).enter r, 1⟩ (ts.map some)
          ⟨(ModeStack.ofGrammar g 0).enter r, 7⟩ ∧
        Moves g (Source.ofText escapesText) ⟨(ModeStack.ofGrammar g 0).enter r, 7⟩
          (some (token (Source.ofText escapesText) Class.string 7 8))
          ⟨ModeStack.ofGrammar g 0, 8⟩ := by
  obtain ⟨g, hg, -⟩ := exists_compiled (Block.grammar "#") (fun _ ↦ true) (by decide +kernel)
  have hplace : ⟨"rules[" ++ toString 2 ++ "]", true, Block.quoteString⟩ ∈
      (Block.grammar "#").places :=
    List.mem_of_getElem? (i := 2) rfl
  obtain ⟨⟨r, hr, hcompiled⟩, hscan⟩ := strings_end_at_first_unescaped_quote hg hplace .quote
  have hfirst : closingQuote? '"' ((Source.ofText escapesText).chars.toList.drop 1) = some 6 := by
    decide +kernel
  have hends := hscan r hcompiled escapesText (ModeStack.ofGrammar g 0) 1 (by decide +kernel)
  rw [hfirst] at hends
  obtain ⟨ts, hbody, hsteps, hquote, -⟩ := hends
  exact ⟨g, hg, _, hplace, .quote, r, hr, hcompiled, ts, hbody, hsteps, hquote⟩

end Scan

end CodeViewer
