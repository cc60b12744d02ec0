import CodeViewer.Grammar.Block
import CodeViewer.Proofs.Grammar.Places
import CodeViewer.Proofs.Grammar.Words

/-!
# Rules of strings between quotes

The rule of strings between two quotes opens a mode that ends at a quote. One rule applies in it:
that of a backslash and the character behind it, whatever that is.
-/

namespace CodeViewer

open Pattern

/-- A backslash stands at an index, and a character behind it. -/
def IsPair (chars : Array Char) (i : Nat) : Prop := chars[i]? = some '\\' ∧ i + 1 < chars.size

instance (chars : Array Char) (i : Nat) : Decidable (IsPair chars i) :=
  inferInstanceAs (Decidable (_ ∧ _))

namespace Pattern

/-- A search for a pattern finds one character where it starts. -/
def FindsChar (p : Pattern) (c : Char) : Prop :=
  ∀ chars pos, p.matchLength? chars pos = .ok (if chars[pos]? = some c then some 1 else none)

/-- A search for a pattern finds a backslash and the character behind it where it starts. -/
def FindsPair (p : Pattern) : Prop :=
  ∀ chars pos, p.matchLength? chars pos = .ok (if IsPair chars pos then some 2 else none)

variable {chars : Array Char} {pos : Nat} {t : Subject} {s : Progress}
  {next : Progress → Option Progress}

/-! ### What the trees match -/

private theorem matchLength?_origin (source : String) {n : Node} (hsteady : n.isSteady = true)
    (chars : Array Char) (pos : Nat) :
    (Pattern.ofNode source (.seq (.anchor .origin) n)).matchLength? chars pos =
      .ok ((n.run ⟨chars, pos⟩ false ⟨pos, []⟩ some).map (·.pos - pos)) := by
  have hwhole : (Node.seq (.anchor .origin) n).isSteady = true := by
    simp [Node.isSteady, hsteady]
  have horigin : (Node.seq (.anchor .origin) n).startsAtOrigin = true := rfl
  simp [Pattern.matchLength?, Pattern.ofNode, hwhole, Pattern.steadyLength?, horigin,
    Pattern.lengthAt?, Node.run, Anchor.holds]

private theorem run_charNode (c : Char) :
    (charNode c).run t false s next =
      if t.chars[s.pos]? = some c then next { s with pos := s.pos + 1 } else none := by
  simp only [charNode, Node.run, Subject.behindChar?, Bool.false_eq_true, ite_false]
  cases hd : t.chars[s.pos]? with
  | none => simp
  | some d =>
    by_cases he : d = c
    · simp [he, (accepts_toNat c c).mpr rfl]
    · have hfalse : CharTest.accepts false (.is c.toNat) d = false :=
        Bool.eq_false_iff.mpr fun h ↦ he ((accepts_toNat c d).mp h)
      simp [he, hfalse]

private theorem contains_all (c : Char) : (CharSet.ofLayer Layer.all).contains c = true := by
  have hle : c.toNat ≤ maxCode := by
    have hvalid := c.valid
    change c.val.toNat ≤ 0x10ffff
    rcases hvalid with h | h <;> omega
  simp [CharSet.contains, CharSet.ofLayer, Layer.all, remains, Layer.contains, classVerdict, hle]

/-- The tree of any character. -/
def anyNode : Node := .char (.isIn (.ofLayer Layer.all)) false

private theorem run_anyNode :
    anyNode.run t false s next =
      if s.pos < t.chars.size then next { s with pos := s.pos + 1 } else none := by
  simp only [anyNode, Node.run, Subject.behindChar?, Bool.false_eq_true, ite_false]
  by_cases hlt : s.pos < t.chars.size
  · simp [hlt, CharTest.accepts, foldCase, contains_all]
  · simp [hlt]

/-! ### The patterns -/

private theorem findsChar_charNode (source : String) (c : Char) :
    (Pattern.ofNode source (.seq (.anchor .origin) (charNode c))).FindsChar c := by
  intro chars pos
  rw [matchLength?_origin source rfl, run_charNode]
  split <;> simp

private theorem findsPair_backslash (source : String) :
    (Pattern.ofNode source
      (.seq (.anchor .origin) (.seq (charNode '\\') anyNode))).FindsPair := by
  intro chars pos
  rw [matchLength?_origin source rfl]
  simp only [Node.run, Bool.false_eq_true, ite_false]
  rw [run_charNode]
  have hlength : pos + 1 + 1 - pos = 2 := by omega
  unfold IsPair
  by_cases hback : chars[pos]? = some '\\'
  · simp only [hback, ite_true, true_and]
    rw [run_anyNode]
    split <;> simp [hlength]
  · simp [hback]

end Pattern

/-! ### The rules -/

/-- A rule of strings between two quotes. -/
inductive Block.Quotes : Rule → Char → Prop where
  | quote : Quotes quoteString '"'
  | apos : Quotes aposString '\''

/-- What a rule of strings between two quotes is compiled to. -/
structure CompiledRule.OpensStrings (r : CompiledRule) (quote : Char) : Prop where
  finish : ∃ p, r.modeSpec.finish = some p ∧ p.FindsChar quote
  cls : r.modeSpec.cls = Class.string
  endsWithParent : r.modeSpec.endsWithParent = false
  excludeEnd : r.modeSpec.excludeEnd = false
  returnEnd : r.modeSpec.returnEnd = false
  endsParent : r.modeSpec.endsParent = false
  noInherit : r.modeSpec.noInherit = true
  useCategories : r.modeSpec.useCategories = false
  absorb : r.modeSpec.absorb = true
  contains : ∃ e, r.contains = [e] ∧ e.head.cls = Class.escape ∧
    e.head.action = .emit false ∧ e.head.start.FindsPair

variable {grammar path : String} {r : Rule} {x : CompiledRule} {quote : Char}

/-- The end of a string is its quote. -/
theorem Block.Quotes.finish (h : Block.Quotes r quote) {finish : Option Pattern}
    (hfinish : compileOptional grammar path r.attributes.finish = .ok finish) :
    ∃ p, finish = some p ∧ p.FindsChar quote := by
  have hread (delimiter : String) (hsome : (delimiter == "") = false)
      (hparse : Pattern.parse ("\\G(?:" ++ delimiter ++ ")") =
        .ok (.seq (.anchor .origin) (charNode quote)))
      (hfinish : compileOptional grammar path delimiter = .ok finish) :
      ∃ p, finish = some p ∧ p.FindsChar quote := by
    have hanchored : compileAnchored grammar path delimiter = .ok (Pattern.ofNode _ _) :=
      compilePattern_eq_ok.mpr ⟨_, hparse, rfl⟩
    simp only [compileOptional, hsome, Bool.false_eq_true, ite_false, hanchored] at hfinish
    cases hfinish
    exact ⟨_, rfl, findsChar_charNode _ _⟩
  cases h with
  | quote => exact hread "\"" (by decide) (by decide +kernel) hfinish
  | apos => exact hread "'" (by decide) (by decide +kernel) hfinish

/-- The rule of escapes finds a backslash and the character behind it. -/
theorem compileRule_backslashEscape {top : Bool} {next n : Nat}
    (h : compileRule grammar top path next Block.backslashEscape = .ok (x, n)) :
    x.head.cls = Class.escape ∧ x.head.action = .emit false ∧ x.head.start.FindsPair := by
  obtain ⟨id, hhead⟩ := (compileRule_compilesTo h).head
  obtain ⟨-, -, source, literal, start, action, hsource, hstart, haction, he⟩ :=
    compileHead_parts hhead
  obtain rfl := compileAction_token haction
  cases hsource
  have hparse : Pattern.parse ("\\G(?:" ++ "\\\\[\\s\\S]" ++ ")") =
      .ok (.seq (.anchor .origin) (.seq (charNode '\\') anyNode)) := by decide +kernel
  have hanchored : compileAnchored grammar path "\\\\[\\s\\S]" = .ok (Pattern.ofNode _ _) :=
    compilePattern_eq_ok.mpr ⟨_, hparse, rfl⟩
  obtain rfl : _ = start := Except.ok.inj (hanchored.symm.trans hstart)
  rw [he]
  exact ⟨rfl, rfl, findsPair_backslash _⟩

/-- A rule of strings between two quotes opens a mode of strings. -/
theorem PlacedRule.CompilesTo.opensStrings {p : PlacedRule} (h : p.CompilesTo grammar x)
    (hrule : Block.Quotes p.rule quote) : x.OpensStrings quote := by
  obtain ⟨path, top, rule⟩ := p
  have hopens : rule.opensMode = true := by cases hrule <;> rfl
  have hinside : rule.contains = some [Block.backslashEscape] := by cases hrule <;> rfl
  obtain ⟨-, finish, illegal, hfinish, hspec⟩ := h.modeSpec hopens
  obtain ⟨next, n, hcontains⟩ := h.contains
  have hattributes : rule.attributes = Block.quoteString.attributes ∨
      rule.attributes = Block.aposString.attributes := by
    cases hrule
    · exact .inl rfl
    · exact .inr rfl
  constructor
  case finish =>
    rw [hspec]
    exact hrule.finish hfinish
  case contains =>
    simp only [hinside] at hcontains
    unfold compileContained compileRules at hcontains
    obtain ⟨⟨e, m⟩, he, hrest⟩ := bind_eq_ok.mp hcontains
    have hcontained : [e] = x.contains := congrArg Prod.fst (Except.ok.inj hrest)
    exact ⟨e, hcontained.symm, compileRule_backslashEscape he⟩
  all_goals
    rw [hspec]
    rcases hattributes with ha | ha <;> simp only [ha] <;> rfl

end CodeViewer
