import CodeViewer.Pattern.Escape
import CodeViewer.Pattern.Parser

/-!
# Reading literal text

The text that `escape` writes is read as the characters it was written for, one item for each. The
pass that collects groups goes along with the pass that reads: both take every escape as a whole.
-/

namespace CodeViewer.Pattern

/-- A character that is written in such a way that it is read again. -/
def isFaithful (c : Char) : Bool := Unicode.isPrintable c || c.toNat < 0x100

/-! ### Escapes -/

/-- A character that begins a character escape and nothing else behind a backslash. -/
structure BeginsEscape (c : Char) : Prop where
  anchor : anchor? c = none
  shorthand : shorthand? c = none
  category : c ≠ 'p' ∧ c ≠ 'P'
  reference : c ≠ 'k' ∧ closing? c = none
  numeral : isNumeral c = false

instance (c : Char) : Decidable (BeginsEscape c) :=
  decidable_of_iff (anchor? c = none ∧ shorthand? c = none ∧ (c ≠ 'p' ∧ c ≠ 'P') ∧
      (c ≠ 'k' ∧ closing? c = none) ∧ isNumeral c = false)
    ⟨fun ⟨h, h', h'', h₃, h₄⟩ ↦ ⟨h, h', h'', h₃, h₄⟩, fun h ↦ ⟨h.1, h.2, h.3, h.4, h.5⟩⟩

/-- A text that stands for a code point behind a backslash. -/
structure EscapeFor (c : Char) (text : List Char) (code : Nat) : Prop where
  begins : BeginsEscape c
  read : ∀ tail, readEscape (c :: (text ++ tail)) = (.ok code, tail)

variable {c : Char} {text tail rest : List Char} {code : Nat} {groups : GroupTable}

private theorem EscapeFor.readBackslash (h : EscapeFor c text code) (tail : List Char) :
    readBackslash groups false (c :: (text ++ tail)) = .ok (codeNode code false, tail) := by
  obtain ⟨⟨hanchor, hshorthand, ⟨hp, hP⟩, ⟨hk, hclosing⟩, hnumeral⟩, hread⟩ := h
  have hescape : readCharEscape false (c :: (text ++ tail)) = .ok (codeNode code false, tail) := by
    simp only [readCharEscape, hread]
  unfold Pattern.readBackslash
  simp only [hanchor, hshorthand, Bool.or_eq_true, beq_iff_eq, hp, hP, or_self, ite_false]
  unfold readReference
  split
  · next heq => exact absurd (List.cons.inj heq).1 hk
  · next heq =>
    obtain ⟨rfl, rfl⟩ := List.cons.inj heq
    simp only [hclosing, hnumeral, Bool.false_and, Bool.false_eq_true, ite_false]
    exact hescape
  · next heq => cases heq

private theorem EscapeFor.afterBackslash (h : EscapeFor c text code) (tail : List Char) :
    afterBackslash (c :: (text ++ tail)) = tail := by
  obtain ⟨⟨hanchor, hshorthand, ⟨hp, hP⟩, ⟨hk, hclosing⟩, hnumeral⟩, hread⟩ := h
  unfold Pattern.afterBackslash
  simp only [hanchor, hshorthand, Option.isSome_none, Bool.or_self, Bool.false_eq_true, ite_false,
    Bool.or_eq_true, beq_iff_eq, hp, hP, or_self]
  unfold afterReference
  split
  · next heq => cases heq
  · next heq => exact absurd (List.cons.inj heq).1 hk
  · next heq =>
    obtain ⟨rfl, rfl⟩ := List.cons.inj heq
    simp only [hclosing, hnumeral, Bool.false_and, Bool.false_eq_true, ite_false, hread]

private theorem readEscape_of_not_isWord (hoctal : isOctal c = false)
    (hword : Unicode.isWord c = false) : readEscape (c :: rest) = (.ok c.toNat, rest) := by
  unfold readEscape
  simp only [hoctal, Bool.false_eq_true, ite_false]
  split
  case h_13 => simp only [hword, Bool.false_eq_true, ite_false]
  all_goals exact absurd hword (by decide)

private theorem escapeFor_metacharacter (h : c ∈ metacharacters) : EscapeFor c [] c.toNat := by
  have hall : metacharacters.all
      (fun c ↦ BeginsEscape c && !isOctal c && !Unicode.isWord c) = true := by decide +kernel
  simp only [List.all_eq_true, Bool.and_eq_true, decide_eq_true_eq, Bool.not_eq_true'] at hall
  obtain ⟨⟨hbegins, hoctal⟩, hword⟩ := hall c h
  exact ⟨hbegins, fun tail ↦ readEscape_of_not_isWord hoctal hword⟩

private theorem hexValue?_digitChar {d : Nat} (h : d < 16) :
    hexValue? (Nat.digitChar d) = some d := by
  have hall : ∀ d < 16, hexValue? (Nat.digitChar d) = some d := by decide
  exact hall d h

private theorem digitChar_ne_brace {d : Nat} (h : d < 16) : Nat.digitChar d ≠ '\x7b' := by
  have hall : ∀ d < 16, Nat.digitChar d ≠ '\x7b' := by decide
  exact hall d h

private theorem escapeFor_hexadecimal {n : Nat} (h : n < 0x100) :
    EscapeFor 'x' (Text.hexDigits 2 n) n := by
  refine ⟨by decide, fun tail ↦ ?_⟩
  have hhigh : n / 16 % 16 < 16 := Nat.mod_lt _ (by decide)
  have hlow : n % 16 < 16 := Nat.mod_lt _ (by decide)
  have hdigits : Text.hexDigits 2 n ++ tail =
      Nat.digitChar (n / 16 % 16) :: Nat.digitChar (n % 16) :: tail := by simp [Text.hexDigits]
  have hvalue : 16 * (16 * 0 + n / 16 % 16) + n % 16 = n := by omega
  have hread : readHex 2 (Text.hexDigits 2 n ++ tail) = (.ok n, tail) := by
    rw [hdigits]
    simp only [readHex, List.length_cons, readHexDigits, hexValue?_digitChar hhigh,
      hexValue?_digitChar hlow, hvalue]
    rw [if_neg (by omega)]
  have hoctal : isOctal 'x' = false := by decide
  simp only [readEscape, hoctal, Bool.false_eq_true, ite_false]
  split
  · next heq =>
    rw [hdigits] at heq
    exact absurd (List.cons.inj heq).1 (digitChar_ne_brace hhigh)
  · exact hread
  all_goals contradiction

private theorem escapeChar_cases (h : isFaithful c = true) :
    (escapeChar c = [c] ∧ c ∉ metacharacters) ∨
      ∃ letter text, escapeChar c = '\\' :: letter :: text ∧ EscapeFor letter text c.toNat := by
  have hletter (letter : Char) (n : Nat) (hbegins : BeginsEscape letter)
      (hread : ∀ tail, readEscape (letter :: tail) = (.ok n, tail)) (hn : c.toNat = n) :
      EscapeFor letter [] c.toNat := ⟨hbegins, fun tail ↦ hn ▸ hread tail⟩
  unfold escapeChar
  split
  · split
    · next hmeta =>
      exact .inr ⟨c, [], rfl, escapeFor_metacharacter (List.contains_iff_mem.mp hmeta)⟩
    · next hplain => exact .inl ⟨rfl, fun hmem ↦ hplain (List.contains_iff_mem.mpr hmem)⟩
  · next hprintable =>
    right
    split
    · next hn => exact ⟨_, _, rfl, hletter 'a' _ (by decide) (fun _ ↦ rfl) hn⟩
    · next hn => exact ⟨_, _, rfl, hletter 'f' _ (by decide) (fun _ ↦ rfl) hn⟩
    · next hn => exact ⟨_, _, rfl, hletter 'n' _ (by decide) (fun _ ↦ rfl) hn⟩
    · next hn => exact ⟨_, _, rfl, hletter 'r' _ (by decide) (fun _ ↦ rfl) hn⟩
    · next hn => exact ⟨_, _, rfl, hletter 't' _ (by decide) (fun _ ↦ rfl) hn⟩
    · next hn => exact ⟨_, _, rfl, hletter 'v' _ (by decide) (fun _ ↦ rfl) hn⟩
    · have hsmall : c.toNat < 0x100 := by simpa [isFaithful, hprintable] using h
      rw [if_pos hsmall]
      exact ⟨_, _, rfl, escapeFor_hexadecimal hsmall⟩

/-! ### Between two items -/

/-- A text begins with neither a comment nor a repetition. -/
structure Still (text : List Char) : Prop where
  skip : ∀ o : Options, o.spaced = false → o.skip text = .ok text
  counts : readCounts text = .ok none

/-- Nothing is repeated or commented at the end of a pattern. -/
theorem still_nil : Still [] := by
  refine ⟨fun o ho ↦ ?_, rfl⟩
  simp only [Options.skip, ho, skipBlanks, Bool.false_eq_true, ite_false]

/-- A character that begins neither a group nor a repetition. -/
theorem still_cons (h : c ∉ ['(', '*', '+', '?', '\x7b']) (rest : List Char) :
    Still (c :: rest) := by
  simp only [List.mem_cons, List.not_mem_nil, or_false, not_or] at h
  obtain ⟨hgroup, hstar, hplus, hoption, hbrace⟩ := h
  constructor
  · intro o ho
    simp only [Options.skip, ho, skipBlanks, Bool.false_eq_true, ite_false]
    split
    · next heq => exact absurd (List.cons.inj heq).1 hgroup
    · rfl
    · rfl
  · unfold readCounts
    split
    · next heq => exact absurd (List.cons.inj heq).1 hstar
    · next heq => exact absurd (List.cons.inj heq).1 hplus
    · next heq => exact absurd (List.cons.inj heq).1 hoption
    · next heq => exact absurd (List.cons.inj heq).1 hbrace
    · rfl

/-- A plain group is no comment. -/
theorem still_group (rest : List Char) : Still ('(' :: '?' :: ':' :: rest) := by
  refine ⟨fun o ho ↦ ?_, rfl⟩
  simp only [Options.skip, ho, skipBlanks, Bool.false_eq_true, ite_false]
  rfl

private theorem still_escapeChar (h : isFaithful c = true) (rest : List Char) :
    Still (escapeChar c ++ rest) := by
  rcases escapeChar_cases h with ⟨hplain, hnone⟩ | ⟨letter, text, hescape, -⟩
  · rw [hplain]
    refine still_cons (fun hmem ↦ hnone ?_) rest
    have hall : ['(', '*', '+', '?', '\x7b'] ⊆ metacharacters := by decide +kernel
    exact hall hmem
  · rw [hescape]
    exact still_cons (by decide) _

/-! ### The pass that reads -/

/-- The frame behind further items. -/
def Frame.behind (f : Frame) (ns : List Node) : Frame := { f with items := ns.reverse ++ f.items }

@[simp] private theorem Frame.behind_nil (f : Frame) : f.behind [] = f := rfl

/-- Items are put behind others one after the other or at once. -/
@[simp] theorem Frame.behind_behind (f : Frame) (ns ms : List Node) :
    (f.behind ns).behind ms = f.behind (ns ++ ms) := by simp [Frame.behind]

/-- A frame without items. -/
def Frame.plain : Frame := ⟨.plain, none, [], [], .initial⟩

/-- The pass in a pattern that declares no groups and switches no options. -/
def reading (rest : List Char) (frame : Frame) (enclosing : List Frame) : Parser :=
  ⟨rest, .initial, frame, enclosing, 1, false, false⟩

/-- The pass gets from one state to another, step by step. -/
inductive Reads (groups : GroupTable) : Parser → Parser → Prop where
  | refl (p : Parser) : Reads groups p p
  | step {p p' p'' : Parser} {c : Char} {rest : List Char} :
      p.options.skip p.rest = .ok (c :: rest) →
      rest.length < p.rest.length → p.step groups c rest = .ok p' →
      p'.rest.length ≤ rest.length → Reads groups p' p'' → Reads groups p p''

variable {f : Frame} {enclosing : List Frame} {n : Node} {p p' p'' : Parser}

/-- What is read in two parts is read. -/
theorem Reads.trans (h : Reads groups p p') (h' : Reads groups p' p'') : Reads groups p p'' := by
  induction h with
  | refl p => exact h'
  | step hskip hlt hstep hle _ ih => exact .step hskip hlt hstep hle (ih h')

private theorem Reads.run (h : Reads groups p p') {fuel : Nat} (hfuel : p.rest.length < fuel) :
    ∃ fuel', p'.rest.length < fuel' ∧ Parser.run groups fuel p = Parser.run groups fuel' p' := by
  induction h generalizing fuel with
  | refl p => exact ⟨fuel, hfuel, rfl⟩
  | @step p p' p'' c rest hskip hlt hstep hle _ ih =>
    obtain ⟨fuel, rfl⟩ : ∃ k, fuel = k + 1 := ⟨fuel - 1, by omega⟩
    have hleft : p'.rest.length < fuel := by omega
    obtain ⟨fuel', hfuel', hrun⟩ := ih hleft
    refine ⟨fuel', hfuel', ?_⟩
    rw [← hrun]
    simp only [Parser.run, hskip, hstep]

private theorem add_of_still (h : Still tail) :
    (reading text f enclosing).add n tail = .ok (reading tail (f.behind [n]) enclosing) := by
  simp only [Parser.add, readRepeat, reading, h.skip .initial rfl, h.counts, bind, Except.bind]
  rfl

private theorem reads_item (h : Still (c :: rest)) (htail : Still tail)
    (hle : tail.length ≤ rest.length)
    (hstep : (reading (c :: rest) f enclosing).step groups c rest =
      (reading (c :: rest) f enclosing).add n tail) :
    Reads groups (reading (c :: rest) f enclosing) (reading tail (f.behind [n]) enclosing) := by
  refine .step (h.skip .initial rfl) (Nat.lt_succ_self _) ?_ hle (.refl _)
  rw [hstep, add_of_still htail]

/-- The item of a character. -/
def charNode (c : Char) : Node := .char (.is c.toNat) false

private theorem step_plain (h : c ∉ metacharacters) (rest : List Char) :
    (reading text f enclosing).step groups c rest =
      (reading text f enclosing).add (charNode c) rest := by
  have hne : ∀ d ∈ metacharacters, c ≠ d := by
    rintro d hd rfl
    exact h hd
  unfold Parser.step
  extract_lets folded literal dangling
  split
  case h_13 => rfl
  all_goals exact absurd rfl (hne _ (by decide +kernel))

/-- A character is read as itself, however it is written. -/
theorem reads_escapeChar (h : isFaithful c = true) (htail : Still tail) :
    Reads groups (reading (escapeChar c ++ tail) f enclosing)
      (reading tail (f.behind [charNode c]) enclosing) := by
  have hstill := still_escapeChar h tail
  rcases escapeChar_cases h with ⟨hplain, hnone⟩ | ⟨letter, text, hescape, hfor⟩
  · rw [hplain] at hstill ⊢
    exact reads_item hstill htail (Nat.le_refl _) (step_plain hnone tail)
  · rw [hescape, List.cons_append, List.cons_append] at hstill ⊢
    refine reads_item hstill htail ?_ ?_
    · simp only [List.length_cons, List.length_append]
      omega
    · simp only [Parser.step, reading, Options.initial, hfor.readBackslash]
      rfl

/-- Literal text is still if what follows it is. -/
theorem still_escape {cs : List Char} (h : ∀ c ∈ cs, isFaithful c = true) (htail : Still tail) :
    Still (cs.flatMap escapeChar ++ tail) := by
  cases cs with
  | nil => exact htail
  | cons c cs =>
    rw [List.flatMap_cons, List.append_assoc]
    exact still_escapeChar (h c List.mem_cons_self) _

/-- Literal text is read as its characters. -/
theorem reads_escape {cs : List Char} (h : ∀ c ∈ cs, isFaithful c = true) (htail : Still tail) :
    Reads groups (reading (cs.flatMap escapeChar ++ tail) f enclosing)
      (reading tail (f.behind (cs.map charNode)) enclosing) := by
  induction cs generalizing f with
  | nil => exact .refl _
  | cons c cs ih =>
    obtain ⟨hc, hcs⟩ := List.forall_mem_cons.mp h
    have hrest := ih (f := f.behind [charNode c]) hcs
    rw [Frame.behind_behind] at hrest
    rw [List.flatMap_cons, List.append_assoc]
    exact (reads_escapeChar hc (still_escape hcs htail)).trans hrest

/-- An anchor is read as such. -/
theorem reads_anchor {a : Anchor} (ha : anchor? c = some a) (htail : Still tail) :
    Reads groups (reading ('\\' :: c :: tail) f enclosing)
      (reading tail (f.behind [.anchor a]) enclosing) := by
  refine reads_item (still_cons (by decide) _) htail (Nat.le_succ _) ?_
  simp only [Parser.step, readBackslash, ha]

/-- A bar ends an alternative. -/
theorem reads_bar (rest : List Char) :
    Reads groups (reading ('|' :: rest) f enclosing)
      (reading rest { f with
        alternatives := Node.sequence f.items.reverse :: f.alternatives, items := [] }
        enclosing) :=
  .step ((still_cons (by decide) _).skip .initial rfl) (Nat.lt_succ_self _) rfl (Nat.le_refl _)
    (.refl _)

/-- A plain group is opened. -/
theorem reads_open (rest : List Char) :
    Reads groups (reading ('(' :: '?' :: ':' :: rest) f enclosing)
      (reading rest .plain (f :: enclosing)) :=
  .step ((still_group rest).skip .initial rfl) (Nat.lt_succ_self _) rfl
    (by simp only [List.length_cons]; omega) (.refl _)

/-- A plain group is closed and becomes an item of a frame that is plain, too. -/
theorem reads_close {outer : Frame} (hkind : f.kind = .plain) (houter : f.outer = .initial)
    (hplain : outer.kind = .plain) (htail : Still tail) :
    Reads groups (reading (')' :: tail) f (outer :: enclosing))
      (reading tail (outer.behind [f.body]) enclosing) := by
  refine .step ((still_cons (by decide) _).skip .initial rfl) (Nat.lt_succ_self _) ?_
    (Nat.le_refl _) (.refl _)
  have hclose : f.close = .ok f.body := by simp only [Frame.close, hkind]
  simp only [Parser.step, Parser.close, reading, hclose, hplain, houter]
  exact add_of_still htail

/-! ### The pass that collects groups -/

/-- The pass that collects groups gets from a text to a part of it, whatever it has found. -/
def Passes (text rest : List Char) : Prop :=
  ∀ s : Census, s.rest = text → ∀ fuel, text.length < fuel →
    ∃ (s' : Census) (fuel' : Nat),
      s'.rest = rest ∧ rest.length < fuel' ∧ s.run fuel = s'.run fuel'

/-- Nothing need be passed over. -/
theorem Passes.refl (text : List Char) : Passes text text :=
  fun s hs fuel hfuel ↦ ⟨s, fuel, hs, hfuel, rfl⟩

/-- What is passed over in two parts is passed over. -/
theorem Passes.trans {text' : List Char} (h : Passes text text') (h' : Passes text' rest) :
    Passes text rest := by
  intro s hs fuel hfuel
  obtain ⟨s', fuel', hs', hfuel', hrun⟩ := h s hs fuel hfuel
  obtain ⟨s'', fuel'', hs'', hfuel'', hrun'⟩ := h' s' hs' fuel' hfuel'
  exact ⟨s'', fuel'', hs'', hfuel'', hrun.trans hrun'⟩

private theorem Passes.of_step (hle : tail.length ≤ rest.length)
    (h : ∀ s : Census, ∃ s', s.step c rest = .ok s' ∧ s'.rest = tail) :
    Passes (c :: rest) tail := by
  intro s hs fuel hfuel
  obtain ⟨s', hstep, hs'⟩ := h s
  obtain ⟨fuel, rfl⟩ : ∃ k, fuel = k + 1 := ⟨fuel - 1, by omega⟩
  rw [List.length_cons] at hfuel
  refine ⟨s', fuel, hs', by omega, ?_⟩
  simp only [Census.run, hs, hstep]

private theorem passes_escapeChar (h : isFaithful c = true) :
    Passes (escapeChar c ++ tail) tail := by
  rcases escapeChar_cases h with ⟨hplain, hnone⟩ | ⟨letter, text, hescape, hfor⟩
  · rw [hplain]
    refine .of_step (Nat.le_refl _) fun s ↦ ⟨{ s with rest := tail }, ?_, rfl⟩
    have hne : ∀ d ∈ metacharacters, c ≠ d := by
      rintro d hd rfl
      exact hnone hd
    unfold Census.step
    split
    case h_6 => rfl
    all_goals exact absurd rfl (hne _ (by decide +kernel))
  · rw [hescape, List.cons_append, List.cons_append]
    refine .of_step ?_ fun s ↦ ⟨{ s with rest := tail }, ?_, rfl⟩
    · simp only [List.length_append, List.length_cons]
      omega
    · simp only [Census.step, hfor.afterBackslash]

/-- Characters are passed over, however they are written. -/
theorem passes_escape {cs : List Char} (h : ∀ c ∈ cs, isFaithful c = true) :
    Passes (cs.flatMap escapeChar ++ tail) tail := by
  induction cs with
  | nil => exact .refl _
  | cons c cs ih =>
    obtain ⟨hc, hcs⟩ := List.forall_mem_cons.mp h
    rw [List.flatMap_cons, List.append_assoc]
    exact (passes_escapeChar hc).trans (ih hcs)

/-- An anchor is passed over. -/
theorem passes_anchor {a : Anchor} (ha : anchor? c = some a) : Passes ('\\' :: c :: tail) tail := by
  refine .of_step (Nat.le_succ _) fun s ↦ ⟨{ s with rest := tail }, ?_, rfl⟩
  simp only [Census.step, afterBackslash, ha, Option.isSome_some, Bool.true_or, ite_true]

/-- The bar between alternatives is passed over. -/
theorem passes_bar (rest : List Char) : Passes ('|' :: rest) rest :=
  .of_step (Nat.le_refl _) fun _ ↦ ⟨_, rfl, rfl⟩

/-- The beginning of a group that captures nothing is passed over. -/
theorem passes_open (rest : List Char) : Passes ('(' :: '?' :: ':' :: rest) rest :=
  have hbegins : Passes ('(' :: '?' :: ':' :: rest) (':' :: rest) :=
    .of_step (Nat.le_succ _) fun _ ↦ ⟨_, rfl, rfl⟩
  hbegins.trans (.of_step (Nat.le_refl _) fun _ ↦ ⟨_, rfl, rfl⟩)

/-- The end of a group is passed over. -/
theorem passes_close (rest : List Char) : Passes (')' :: rest) rest :=
  .of_step (Nat.le_refl _) fun _ ↦ ⟨_, rfl, rfl⟩

/-- A pattern is read if both passes get to its end. -/
theorem parse_eq_ok {text : String} (hpasses : Passes text.toList [])
    (hreads : ∀ groups, Reads groups (reading text.toList .plain []) (reading [] f [])) :
    parse text = .ok f.body.shared := by
  have hgroups : ∃ groups, GroupTable.ofPattern text.toList = .ok groups := by
    obtain ⟨s', fuel', hs', hfuel', hrun⟩ := hpasses
      ⟨text.toList, ⟨0, [], []⟩, .initial, [], false⟩ rfl (text.toList.length + 1)
      (Nat.lt_succ_self _)
    obtain ⟨fuel', rfl⟩ : ∃ k, fuel' = k + 1 := ⟨fuel' - 1, by omega⟩
    have hdeclared : declared text.toList = .ok s'.declared := by
      rw [declared, hrun]
      simp only [Census.run, hs']
    simp only [GroupTable.ofPattern, hdeclared]
    exact ⟨_, rfl⟩
  obtain ⟨groups, hgroups⟩ := hgroups
  have hfuel : (reading text.toList .plain []).rest.length < text.toList.length + 1 :=
    Nat.lt_succ_self _
  obtain ⟨fuel', hfuel', hrun⟩ := (hreads groups).run hfuel
  obtain ⟨fuel', rfl⟩ : ∃ k, fuel' = k + 1 := ⟨fuel' - 1, by omega⟩
  have hend : Parser.run groups (fuel' + 1) (reading [] f []) = .ok f.body := by
    simp only [Parser.run, reading, still_nil.skip .initial rfl]
  simp only [parse, hgroups]
  change (Parser.run groups (text.toList.length + 1) (reading text.toList .plain [])).map
    Node.shared = _
  rw [hrun, hend]
  rfl

end CodeViewer.Pattern
