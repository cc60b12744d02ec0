import CodeViewer.Proofs.Grammar.Words
import CodeViewer.Proofs.Scan.Arbitration
import CodeViewer.Proofs.Text.Encoded

/-!
# How words are classified

A word goes through two mechanisms. First the patterns of the categories and that of identifiers
compete for the text, then the text that was won is looked up in the lists of words, beginning with
the category that has won it. The two agree: whatever pattern wins, the class of the token is that
of a category only if this category lists exactly the text of the token.
-/

namespace CodeViewer

open Text (Source)

/-! ### Looking up a lexeme -/

namespace CompiledGrammar

/-- The category of a class lists a lexeme. -/
def Lists (g : CompiledGrammar) (cls : Class) (lexeme : String) : Prop :=
  ∃ c ∈ g.categories, c.cls = cls ∧ lexeme ∈ c.words

variable {g : CompiledGrammar} {c : CompiledCategory} {lexeme : String} {hint cls : Class}

private theorem category?_cls (hdistinct : (g.categories.map (·.cls)).Nodup)
    (hc : c ∈ g.categories) :
    g.category? c.cls = some c := by
  unfold category?
  cases hfound : g.categories.find? (·.cls == c.cls) with
  | none => simpa using List.find?_eq_none.mp hfound c hc
  | some d =>
    have hcls : d.cls = c.cls := by simpa using List.find?_some hfound
    rw [List.inj_on_of_nodup_map hdistinct (List.mem_of_find?_eq_some hfound) hc hcls]

/-- A lexeme that the hinted category lists gets its class. -/
theorem classify_hinted (hdistinct : (g.categories.map (·.cls)).Nodup) (hc : c ∈ g.categories)
    (hcls : c.cls ≠ "") (hlisted : lexeme ∈ c.words) :
    g.classify lexeme c.cls = .ok c.cls := by
  simp [classify, category?_cls hdistinct hc, hcls, hlisted]

/-- A lexeme that is listed gets the class of a category that lists it. -/
theorem classify_listed (h : g.classify lexeme hint = .ok cls)
    (hlisted : ∃ cls, g.Lists cls lexeme) : g.Lists cls lexeme := by
  unfold classify at h
  split at h
  · next hhinted =>
    cases h
    simp only [Bool.and_eq_true, Option.any_eq_true, category?] at hhinted
    obtain ⟨-, c, hfound, hword⟩ := hhinted
    exact ⟨c, List.mem_of_find?_eq_some hfound, by simpa using List.find?_some hfound,
      by simpa using hword⟩
  · split at h
    · next c hfound =>
      cases h
      exact ⟨c, List.mem_of_find?_eq_some hfound, rfl, by simpa using List.find?_some hfound⟩
    · next hnone =>
      obtain ⟨_, c, hc, -, hword⟩ := hlisted
      exact absurd (by simpa using hword) (List.find?_eq_none.mp hnone c hc)

/-- A lexeme that no category lists stays an identifier if it was taken for one. -/
theorem classify_unlisted (h : g.classify lexeme Class.identifier = .ok cls)
    (hunlisted : ∀ cls, ¬ g.Lists cls lexeme) : cls = Class.identifier := by
  have hnone (c : CompiledCategory) (hc : c ∈ g.categories) : lexeme ∉ c.words :=
    fun hword ↦ hunlisted c.cls ⟨c, hc, rfl, hword⟩
  unfold classify at h
  split at h
  · cases h
    rfl
  · split at h
    · next c hfound =>
      refine absurd ?_ (hnone c (List.mem_of_find?_eq_some hfound))
      simpa using List.find?_some hfound
    · cases hname : g.isName lexeme with
      | error e =>
        rw [hname] at h
        cases h
      | ok named =>
        rw [hname] at h
        cases named <;> cases h <;> rfl

end CompiledGrammar

namespace Scan

variable {g : CompiledGrammar} {src : Source} {m : Mode} {pos n : Nat} {w : Candidate}
  {c : CompiledCategory} {lexeme : String} {cls : Class}

/-! ### The lexeme of a match -/

private theorem excerpt_of_le {start stop : Nat} (h : stop ≤ src.size) :
    excerpt src start stop = .ok (String.ofList (src.chars.extract start stop).toList) := by
  rw [excerpt, src.excerpt?_of_le start stop h]

private theorem excerpt_of_standsAt {word : String} (h : StandsAt src.chars pos word)
    (hpositive : 0 < word.length) : excerpt src pos (pos + word.length) = .ok word := by
  have hlength := h.spelled.length_le
  rw [String.length_toList, List.length_drop, Array.length_toList] at hlength
  have hstop : pos + word.length ≤ src.size := by
    change pos + word.length ≤ src.chars.size
    omega
  have hchars : (src.chars.extract pos (pos + word.length)).toList = word.toList := by
    rw [Array.toList_extract, List.extract, Nat.add_sub_cancel_left, ← String.length_toList]
    exact (List.prefix_iff_eq_take.mp h.spelled).symm
  rw [excerpt_of_le hstop, hchars, String.ofList_toList]

private theorem MatchesAt.mem_words (h : MatchesAt src c.pattern pos n) (hc : c.Proper)
    (hfaithful : ∀ word ∈ c.words, IsFaithful word)
    (hlexeme : excerpt src pos (pos + n) = .ok lexeme) : lexeme ∈ c.words := by
  obtain ⟨grammar, path, hpattern⟩ := hc.pattern
  obtain ⟨p, hp, hfinds⟩ :=
    compileAnchored_words hc.words.some hc.words.nonempty hfaithful grammar path
  obtain rfl : c.pattern = p := by
    rw [hpattern] at hp
    exact Except.ok.inj hp
  obtain ⟨n?, hn, hlongest⟩ := hfinds src.chars pos
  rw [h.1] at hn
  cases hn
  obtain ⟨word, hword, hstands, rfl, -⟩ := hlongest
  rw [excerpt_of_standsAt hstands h.2] at hlexeme
  cases hlexeme
  exact hword

/-! ### The category that wins -/

/-- A category is the one declared first of those whose patterns match `n` characters at a
place. -/
def FirstMatch (g : CompiledGrammar) (src : Source) (pos n : Nat) (c : CompiledCategory) : Prop :=
  ∃ k, g.categories[k]? = some c ∧ MatchesAt src c.pattern pos n ∧
    ∀ (j : Nat) (d : CompiledCategory), j < k → g.categories[j]? = some d →
      ¬ MatchesAt src d.pattern pos n

private theorem FirstMatch.mem (h : FirstMatch g src pos n c) : c ∈ g.categories := by
  obtain ⟨k, hk, -⟩ := h
  exact List.mem_of_getElem? hk

private theorem FirstMatch.matchesAt (h : FirstMatch g src pos n c) :
    MatchesAt src c.pattern pos n := by
  obtain ⟨k, -, hmatch, -⟩ := h
  exact hmatch

private theorem FirstMatch.unique {d : CompiledCategory} (h : FirstMatch g src pos n c)
    (h' : FirstMatch g src pos n d) : c = d := by
  obtain ⟨k, hc, hmatch, hfirst⟩ := h
  obtain ⟨l, hd, hmatch', hfirst'⟩ := h'
  rcases Nat.lt_trichotomy k l with hlt | rfl | hlt
  · exact absurd hmatch (hfirst' k c hlt hc)
  · rw [hc] at hd
    exact Option.some.inj hd
  · exact absurd hmatch' (hfirst l d hlt hd)

private theorem Contends.applies {i : Nat} (h : Contends g src m pos i w) (hw : w.rule = none) :
    m.categories = true := by
  by_contra hno
  cases (contends_of_not_applies (Bool.not_eq_true _ ▸ hno)).mp h with
  | rule _ _ _ _ => cases hw
  | category hc _ => cases hc

private theorem Wins.word_cases (h : Wins g src m pos w) (hw : w.rule = none) :
    (∃ c, FirstMatch g src pos w.length c ∧ w.cls = c.cls) ∨
      w.cls = Class.identifier ∧
        ∀ c ∈ g.categories, ¬ MatchesAt src c.pattern pos w.length := by
  obtain ⟨i, hcontends, hover⟩ := h
  have happlies := hcontends.applies hw
  rcases (contends_of_applies happlies).mp hcontends with hcompetes | ⟨-, n, -, hlonger, rfl⟩
  · left
    cases hcompetes with
    | rule _ _ _ _ => cases hw
    | @category k n c hc hmatch =>
      refine ⟨c, ⟨k, hc, hmatch, ?_⟩, rfl⟩
      intro j d hlt hd hearlier
      have hprevails :=
        hover _ _ ((contends_of_applies happlies).mpr (.inl (.category hd hearlier)))
      simp only [Prevails] at hprevails
      omega
  · right
    constructor
    · rfl
    · intro c hc hmatch
      obtain ⟨k, hk⟩ := List.getElem?_of_mem hc
      exact Nat.lt_irrefl _ (hlonger _ _ (.category hk hmatch))

/-! ### The class of a word -/

/-- The class of a token is settled exactly by the lists of words. -/
structure ClassifiedExactly (g : CompiledGrammar) (src : Source) (pos : Nat) (lexeme : String)
    (cls : Class) : Prop where
  /-- A word of a category gets the class of a category that lists it. -/
  listed : (∃ d ∈ g.categories, lexeme ∈ d.words) → g.Lists cls lexeme
  /-- Of several categories whose patterns match the lexeme it is the one declared first. -/
  first : ∀ d, FirstMatch g src pos lexeme.length d → cls = d.cls
  /-- A lexeme that is a word of no category is an identifier. -/
  unlisted : (∀ d ∈ g.categories, lexeme ∉ d.words) → cls = Class.identifier
  /-- No class of a category is given to a lexeme that the category does not list. -/
  exact : ∀ d ∈ g.categories, d.cls = cls → cls ≠ Class.identifier → lexeme ∈ d.words

private theorem Wins.classify_cases (hdistinct : (g.categories.map (·.cls)).Nodup)
    (hproper : ∀ c ∈ g.categories, c.Proper)
    (hfaithful : ∀ c ∈ g.categories, ∀ word ∈ c.words, IsFaithful word)
    (h : Wins g src m pos w) (hw : w.rule = none)
    (hlexeme : excerpt src pos (pos + w.length) = .ok lexeme)
    (hclassify : g.classify lexeme w.cls = .ok cls) :
    (∃ c, FirstMatch g src pos w.length c ∧ lexeme ∈ c.words ∧ cls = c.cls) ∨
      (∀ c ∈ g.categories, ¬ MatchesAt src c.pattern pos w.length) ∧
        ((∀ cls, ¬ g.Lists cls lexeme) → cls = Class.identifier) := by
  rcases h.word_cases hw with ⟨c, hfirst, hcls⟩ | ⟨hcls, hnone⟩
  · have hc := hfirst.mem
    have hword := hfirst.matchesAt.mem_words (hproper c hc) (hfaithful c hc) hlexeme
    rw [hcls, CompiledGrammar.classify_hinted hdistinct hc (hproper c hc).cls hword] at hclassify
    exact .inl ⟨c, hfirst, hword, (Except.ok.inj hclassify).symm⟩
  · rw [hcls] at hclassify
    exact .inr ⟨hnone, CompiledGrammar.classify_unlisted hclassify⟩

/-- The class that is settled for a word that wins is exact. -/
theorem Wins.classifiedExactly {v : Candidate} (hdistinct : (g.categories.map (·.cls)).Nodup)
    (hproper : ∀ c ∈ g.categories, c.Proper)
    (hfaithful : ∀ c ∈ g.categories, ∀ word ∈ c.words, IsFaithful word)
    (h : Wins g src m pos w) (hw : w.rule = none) (hsettled : Settles g src pos w v)
    (hlexeme : excerpt src pos (pos + w.length) = .ok lexeme) (hlength : lexeme.length = w.length) :
    ClassifiedExactly g src pos lexeme v.cls := by
  cases hsettled with
  | rule hrule =>
    rw [hw] at hrule
    cases hrule
  | @word read cls _ hread hclassify =>
    obtain rfl : lexeme = read := by
      rw [hlexeme] at hread
      exact Except.ok.inj hread
    have hcases := h.classify_cases hdistinct hproper hfaithful hw hlexeme hclassify
    have hlisted (hword : ∃ d ∈ g.categories, lexeme ∈ d.words) : g.Lists cls lexeme := by
      obtain ⟨d, hd, hword⟩ := hword
      exact CompiledGrammar.classify_listed hclassify ⟨d.cls, d, hd, rfl, hword⟩
    have hunlisted (hnone : ∀ d ∈ g.categories, lexeme ∉ d.words) : cls = Class.identifier := by
      rcases hcases with ⟨c, hfirst, hword, -⟩ | ⟨-, hname⟩
      · exact absurd hword (hnone c hfirst.mem)
      · apply hname
        rintro _ ⟨d, hd, -, hword⟩
        exact hnone d hd hword
    constructor
    case listed => exact hlisted
    case unlisted => exact hunlisted
    case first =>
      intro d hd
      rw [hlength] at hd
      rcases hcases with ⟨c, hfirst, -, hcls⟩ | ⟨hnone, -⟩
      · rw [← hfirst.unique hd]
        exact hcls
      · exact absurd hd.matchesAt (hnone d hd.mem)
    case exact =>
      intro d hd hcls hnot
      by_cases hword : ∃ d ∈ g.categories, lexeme ∈ d.words
      · obtain ⟨c, hc, hsame, hword⟩ := hlisted hword
        obtain rfl : c = d := List.inj_on_of_nodup_map hdistinct hc hd (hsame.trans hcls.symm)
        exact hword
      · exact absurd (hunlisted fun d hd h ↦ hword ⟨d, hd, h⟩) hnot

/-! ### The tokens of a scan -/

/-- A scan emits a token in a state that it can be in. -/
def Emits (g : CompiledGrammar) (maxDepth : Int) (src : Source) (s : ScanState) (t : Token) :
    Prop :=
  Reaches g maxDepth src s ∧ ∃ s', Moves g src s (some t) s'

/-- A step takes a word: what it takes comes from no rule, but from the pattern of a category or
from that of identifiers. -/
def TakesWord (g : CompiledGrammar) (src : Source) (s : ScanState) : Prop :=
  ∃ c, candidate? g src s.stack.top s.pos = .ok (some c) ∧ c.rule = none ∧
    step g src s = take src s c

variable {maxDepth : Int} {s s' : ScanState} {t : Token} {os : List (Option Token)}

/-- A token of a run is emitted by one of its steps. -/
theorem Steps.emits (h : Steps g src s os s') (hs : Reaches g maxDepth src s)
    (ht : some t ∈ os) : ∃ s, Emits g maxDepth src s t := by
  induction h with
  | nil s => cases ht
  | @cons s s' s'' o os hm _ ih =>
    rcases List.mem_cons.mp ht with rfl | hlater
    · exact ⟨s, hs, s', hm⟩
    · obtain ⟨os', hsteps⟩ := hs
      exact ih ⟨os' ++ [o], hsteps.append (.cons hm (.nil _))⟩ hlater

private theorem step_of_atRoot {c : Candidate} (hroot : s.stack.opened = [])
    (hc : candidate? g src s.stack.top s.pos = .ok (some c)) : step g src s = take src s c := by
  have htop : s.stack.top = s.stack.root := by simp [ModeStack.top, hroot]
  rw [htop] at hc
  simp [step, advance, hroot, hc]

private theorem take_word_eq_emitted {c : Candidate} (hrule : c.rule = none) :
    (take src s c).1 = .emitted t ↔
      s.pos + c.length ≤ src.size ∧ t = token src c.cls s.pos (s.pos + c.length) := by
  simp only [take, hrule, emit]
  split
  · next hlt =>
    constructor
    · intro h
      cases h
    · rintro ⟨hle, -⟩
      exact absurd hlt (Nat.not_lt.mpr hle)
  · next hge =>
    rw [Outcome.emitted.injEq, eq_comm, and_iff_right (Nat.not_lt.mp hge)]

/-- Words are classified exactly. Where the words of a grammar are written in such a way that they
are read again, and the text is the encoding of a string, every token of a scan is emitted by a
step. If the step has taken a word, the text of the token is an encoded lexeme, and its class is
settled exactly by the categories that list this lexeme. -/
theorem words_classified_exactly {gr : Grammar} (hg : compile gr = .ok g)
    (hfaithful : ∀ c ∈ g.categories, ∀ word ∈ c.words, IsFaithful word) (maxDepth : Int)
    (str : String) :
    (∀ calls, ∀ t ∈ ((Scanner.ofText g maxDepth str.toUTF8).nextEach calls).1,
        ∃ s, Emits g maxDepth (Source.ofText str.toUTF8) s t) ∧
      ∀ s t, Emits g maxDepth (Source.ofText str.toUTF8) s t →
        TakesWord g (Source.ofText str.toUTF8) s →
        ∃ lexeme : String, t.text = lexeme.toUTF8 ∧
          ClassifiedExactly g (Source.ofText str.toUTF8) s.pos lexeme t.cls := by
  obtain ⟨hdistinct, hproper⟩ := compile_categories hg
  constructor
  · intro calls t ht
    obtain ⟨-, -, os, s, hsteps, htokens, -⟩ :=
      Scanner.nextEach_follows g maxDepth str.toUTF8 calls
    rw [← htokens, List.reduceOption_mem_iff] at ht
    exact hsteps.emits ⟨[], .nil _⟩ ht
  · rintro s t ⟨-, s', hm⟩ ⟨c, hc, hrule, hstep⟩
    obtain ⟨w, hwins, hsettled⟩ := candidate?_chosen hdistinct hc
    have htaken : (take (Source.ofText str.toUTF8) s c).1 = .emitted t := by
      rw [← hstep, hm.2]
      rfl
    obtain ⟨hstop, rfl⟩ := (take_word_eq_emitted hrule).mp htaken
    have hw : w.rule = none := by
      cases hsettled with
      | rule _ => exact hrule
      | word hw _ _ => exact hw
    have hlength : w.length = c.length := by
      cases hsettled with
      | rule _ => rfl
      | word _ _ _ => rfl
    rw [← hlength] at hstop ⊢
    refine ⟨_, Source.slice_toUTF8 str (Nat.le_add_right _ _) hstop,
      hwins.classifiedExactly hdistinct hproper hfaithful hw hsettled (excerpt_of_le hstop) ?_⟩
    have hsize : s.pos + w.length ≤ (Source.ofText str.toUTF8).chars.size := hstop
    rw [String.length_ofList, Array.length_toList, Array.size_extract]
    omega

/-- A word that begins with a word of another category is found by the category that lists it. -/
theorem words_classified_exactly_twoCategories :
    ∃ g, compile twoCategories = .ok g ∧
      (∀ c ∈ g.categories, ∀ word ∈ c.words, IsFaithful word) ∧
      ∃ t, Emits g 0 (Source.ofText "int".toUTF8) (start g 0) t ∧
        TakesWord g (Source.ofText "int".toUTF8) (start g 0) ∧ t.cls = "type" ∧
        ∃ lexeme : String, t.text = lexeme.toUTF8 ∧
          ClassifiedExactly g (Source.ofText "int".toUTF8) 0 lexeme t.cls := by
  obtain ⟨g, hg, htest⟩ := exists_compiled twoCategories
    (fun g ↦
      (g.categories.all fun c ↦ c.words.all fun word ↦ decide (IsFaithful word)) &&
        (candidate? g (Source.ofText "int".toUTF8) (start g 0).stack.top 0).toOption.join.any
          fun c ↦ c.rule.isNone && c.cls == "type" && c.length == 3)
    (by decide +kernel)
  simp only [Bool.and_eq_true, List.all_eq_true, decide_eq_true_eq] at htest
  obtain ⟨hfaithful, hfound⟩ := htest
  refine ⟨g, hg, hfaithful, ?_⟩
  cases hc : candidate? g (Source.ofText "int".toUTF8) (start g 0).stack.top 0 with
  | error e =>
    rw [hc] at hfound
    cases hfound
  | ok c? =>
    rw [hc] at hfound
    cases c? with
    | none => cases hfound
    | some c =>
      simp only [Except.toOption, Option.join_some, Option.any_some, Bool.and_eq_true,
        Option.isNone_iff_eq_none, beq_iff_eq] at hfound
      obtain ⟨⟨hrule, hcls⟩, hlength⟩ := hfound
      have hstep := step_of_atRoot (s := start g 0) rfl hc
      have hleft : (start g 0).pos < (Source.ofText "int".toUTF8).size := by
        change 0 < (Source.ofText "int".toUTF8).size
        decide +kernel
      have hinside : (start g 0).pos + c.length ≤ (Source.ofText "int".toUTF8).size := by
        rw [hlength]
        change 0 + 3 ≤ (Source.ofText "int".toUTF8).size
        decide +kernel
      have hemits : Emits g 0 (Source.ofText "int".toUTF8) (start g 0)
          (token (Source.ofText "int".toUTF8) c.cls 0 (0 + c.length)) := by
        refine ⟨⟨[], .nil _⟩, _, hleft, hstep.trans (Prod.ext ?_ rfl)⟩
        exact (take_word_eq_emitted hrule).mpr ⟨hinside, rfl⟩
      have htakes : TakesWord g (Source.ofText "int".toUTF8) (start g 0) := ⟨c, hc, hrule, hstep⟩
      obtain ⟨-, hexact⟩ := words_classified_exactly hg hfaithful 0 "int"
      exact ⟨_, hemits, htakes, hcls, hexact _ _ hemits htakes⟩

end Scan

end CodeViewer
