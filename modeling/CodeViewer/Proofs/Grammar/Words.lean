import CodeViewer.Proofs.Grammar.Categories
import CodeViewer.Proofs.Pattern.Literal
import CodeViewer.Proofs.Pattern.Tree

/-!
# What the pattern of a list of words matches

The pattern of a list of words is read as one alternative for each word, the longest first. Where a
search starts it matches the longest of the words that stand there, in whatever order they are
listed.
-/

namespace CodeViewer

open Pattern

/-! ### Reading a word -/

/-- The text of the condition beside a word with a character at its edge. -/
def edgeText (c? : Option Char) : List Char := if c?.any needsBoundary then ['\\', 'b'] else []

/-- The condition beside a word with a character at its edge. -/
def edgeItems (c? : Option Char) : List Node :=
  if c?.any needsBoundary then [.anchor .wordBoundary] else []

/-- The items that the pattern of a word is read as. -/
def wordItems (w : String) : List Node :=
  edgeItems w.toList.head? ++ w.toList.map charNode ++ edgeItems w.toList.getLast?

/-- All characters of a word are written in such a way that they are read again. -/
def IsFaithful (w : String) : Prop := ∀ c ∈ w.toList, isFaithful c = true

instance (w : String) : Decidable (IsFaithful w) :=
  List.decidableBAll (fun c ↦ isFaithful c = true) w.toList

variable {c? : Option Char} {w : String} {ws words : List String} {tail : List Char}
  {f : Frame} {enclosing : List Frame} {groups : GroupTable}

private theorem toList_wordPattern (w : String) : (wordPattern w).toList =
    edgeText w.toList.head? ++ (w.toList.flatMap escapeChar ++ edgeText w.toList.getLast?) := by
  unfold wordPattern edgeText
  simp only [String.toList_append, escape, String.toList_ofList, List.append_assoc]
  congr 1
  · split <;> rfl
  · congr 1
    split <;> rfl

private theorem still_edge (htail : Still tail) : Still (edgeText c? ++ tail) := by
  unfold edgeText
  split
  · exact still_cons (by decide) _
  · exact htail

private theorem reads_edge (htail : Still tail) :
    Reads groups (reading (edgeText c? ++ tail) f enclosing)
      (reading tail (f.behind (edgeItems c?)) enclosing) := by
  unfold edgeText edgeItems
  split
  · exact reads_anchor rfl htail
  · exact .refl _

private theorem passes_edge : Passes (edgeText c? ++ tail) tail := by
  unfold edgeText
  split
  · exact passes_anchor rfl
  · exact .refl _

private theorem reads_word (h : IsFaithful w) (htail : Still tail) :
    Still ((wordPattern w).toList ++ tail) ∧
      Reads groups (reading ((wordPattern w).toList ++ tail) f enclosing)
        (reading tail (f.behind (wordItems w)) enclosing) := by
  have hlast : Still (edgeText w.toList.getLast? ++ tail) := still_edge htail
  have hword := still_escape h hlast
  rw [toList_wordPattern, List.append_assoc, List.append_assoc]
  have hitems : f.behind (wordItems w) = ((f.behind (edgeItems w.toList.head?)).behind
      (w.toList.map charNode)).behind (edgeItems w.toList.getLast?) := by simp [wordItems]
  rw [hitems]
  exact ⟨still_edge hword,
    (reads_edge hword).trans ((reads_escape h hlast).trans (reads_edge htail))⟩

private theorem passes_word (h : IsFaithful w) : Passes ((wordPattern w).toList ++ tail) tail := by
  rw [toList_wordPattern, List.append_assoc, List.append_assoc]
  exact passes_edge.trans ((passes_escape h).trans passes_edge)

/-! ### Reading a list of words -/

/-- The text of the alternatives of a list of words. -/
def alternativesText (ws : List String) : List Char :=
  (String.intercalate "|" (ws.map wordPattern)).toList

private theorem alternativesText_cons_cons (w v : String) (vs : List String) :
    alternativesText (w :: v :: vs) =
      (wordPattern w).toList ++ '|' :: alternativesText (v :: vs) := by
  simp only [alternativesText, List.map_cons, String.intercalate_cons_cons, String.toList_append,
    List.append_assoc]
  rfl

private theorem reads_words (hws : ws ≠ []) (h : ∀ w ∈ ws, IsFaithful w) (hf : f.items = [])
    (htail : Still tail) :
    ∃ f', Reads groups (reading (alternativesText ws ++ tail) f enclosing)
        (reading tail f' enclosing) ∧ f'.kind = f.kind ∧ f'.outer = f.outer ∧
      f'.branches = f.alternatives.reverse ++ ws.map fun w ↦ Node.sequence (wordItems w) := by
  induction ws generalizing f with
  | nil => exact absurd rfl hws
  | cons w ws ih =>
    obtain ⟨hw, hrest⟩ := List.forall_mem_cons.mp h
    cases ws with
    | nil =>
      refine ⟨f.behind (wordItems w), (reads_word hw htail).2, rfl, rfl, ?_⟩
      simp [Frame.branches, Frame.behind, hf]
    | cons v vs =>
      have hbar : Still ('|' :: (alternativesText (v :: vs) ++ tail)) := still_cons (by decide) _
      let next : Frame := { f with
        alternatives := Node.sequence (f.behind (wordItems w)).items.reverse :: f.alternatives
        items := [] }
      have hnext : next.items = [] := rfl
      obtain ⟨f', hreads, hkind, houter, hbranches⟩ := ih (List.cons_ne_nil _ _) hrest hnext
      refine ⟨f', ?_, hkind, houter, ?_⟩
      · rw [alternativesText_cons_cons, List.append_assoc, List.cons_append]
        exact (reads_word hw hbar).2.trans ((reads_bar _).trans hreads)
      · rw [hbranches]
        simp [next, Frame.behind, hf]

private theorem passes_words (hws : ws ≠ []) (h : ∀ w ∈ ws, IsFaithful w) :
    Passes (alternativesText ws ++ tail) tail := by
  induction ws with
  | nil => exact absurd rfl hws
  | cons w ws ih =>
    obtain ⟨hw, hrest⟩ := List.forall_mem_cons.mp h
    cases ws with
    | nil => exact passes_word hw
    | cons v vs =>
      rw [alternativesText_cons_cons, List.append_assoc, List.cons_append]
      exact (passes_word hw).trans ((passes_bar _).trans (ih (List.cons_ne_nil _ _) hrest))

/-- The tree of the alternatives of words. -/
def alternativesTree (ws : List String) : Node :=
  .alternation (ws.map fun w ↦ Node.sequence (wordItems w))

/-- The tree of the group of words. -/
def wordsGroup (ws : List String) : Node := .alternation [.sequence [alternativesTree ws]]

/-- The tree of the pattern of words where a search starts. -/
def wordsTree (ws : List String) : Node :=
  .alternation [.sequence [.anchor .origin, wordsGroup ws]]

private theorem areSimple_wordItems (w : String) : Node.AreSimple (wordItems w) := by
  have hedge (c? : Option Char) : Node.AreSimple (edgeItems c?) := by
    unfold edgeItems
    split
    · exact Node.areSimple_singleton .anchor
    · exact Node.areSimple_nil
  refine Node.areSimple_append.mpr ⟨Node.areSimple_append.mpr ⟨hedge _, ?_⟩, hedge _⟩
  intro n hn
  obtain ⟨c, -, rfl⟩ := List.mem_map.mp hn
  exact .code c.valid

private theorem areSimple_words (ws : List String) :
    Node.AreSimple (ws.map fun w ↦ Node.sequence (wordItems w)) := by
  intro n hn
  obtain ⟨w, -, rfl⟩ := List.mem_map.mp hn
  exact Node.simple_sequence (areSimple_wordItems w)

private theorem simple_wordsGroup (ws : List String) : (wordsGroup ws).Simple :=
  Node.simple_alternation (Node.areSimple_singleton (Node.simple_sequence (Node.areSimple_singleton
    (Node.simple_alternation (areSimple_words ws)))))

private theorem areSimple_anchored (ws : List String) :
    Node.AreSimple [.anchor .origin, wordsGroup ws] :=
  Node.areSimple_cons.mpr ⟨.anchor, Node.areSimple_singleton (simple_wordsGroup ws)⟩

private theorem simple_wordsTree (ws : List String) : (wordsTree ws).Simple :=
  Node.simple_alternation (Node.areSimple_singleton (Node.simple_sequence (areSimple_anchored ws)))

/-- The pattern of words is read as their tree. -/
theorem parse_words (hws : ws ≠ []) (h : ∀ w ∈ ws, IsFaithful w) {text : String}
    (htext : text.toList = '\\' :: 'G' :: '(' :: '?' :: ':' :: '(' :: '?' :: ':' ::
      (alternativesText ws ++ [')', ')'])) : parse text = .ok (wordsTree ws) := by
  let outer : Frame := Frame.plain.behind [.anchor .origin]
  let middle : Frame := Frame.plain.behind [alternativesTree ws]
  let whole : Frame := outer.behind [middle.body]
  have hpasses : Passes text.toList [] := by
    rw [htext]
    have hopen : Passes ('\\' :: 'G' :: '(' :: '?' :: ':' :: '(' :: '?' :: ':' ::
        (alternativesText ws ++ [')', ')'])) (alternativesText ws ++ [')', ')']) :=
      (passes_anchor rfl).trans ((passes_open _).trans (passes_open _))
    have hclose : Passes [')', ')'] [] := (passes_close _).trans (passes_close _)
    exact hopen.trans ((passes_words hws h).trans hclose)
  have hreads (groups : GroupTable) :
      Reads groups (reading text.toList .plain []) (reading [] whole []) := by
    have hend : Still [')'] := still_cons (by decide) _
    have hends : Still [')', ')'] := still_cons (by decide) _
    have hitems : Frame.plain.items = [] := rfl
    obtain ⟨inner, hwords, hkind, houter, hbranches⟩ := reads_words hws h hitems hends
    have hbody : inner.body = alternativesTree ws := by
      rw [Frame.body, hbranches]
      rfl
    have hopen : Reads groups (reading ('\\' :: 'G' :: '(' :: '?' :: ':' :: '(' :: '?' :: ':' ::
        (alternativesText ws ++ [')', ')'])) .plain [])
        (reading (alternativesText ws ++ [')', ')']) .plain [.plain, outer]) :=
      (reads_anchor rfl (still_group _)).trans ((reads_open _).trans (reads_open _))
    have hclose : Reads groups (reading [')', ')'] inner [.plain, outer])
        (reading [')'] middle [outer]) := by
      have hplain : Frame.plain.kind = .plain := rfl
      have hmiddle : middle = Frame.plain.behind [inner.body] := by rw [hbody]
      rw [hmiddle]
      exact reads_close hkind houter hplain hend
    have hclose' : Reads groups (reading [')'] middle [outer]) (reading [] whole []) :=
      reads_close rfl rfl rfl still_nil
    rw [htext]
    exact hopen.trans (hwords.trans (hclose.trans hclose'))
  have hwhole : whole.body = wordsTree ws := rfl
  rw [parse_eq_ok hpasses hreads, hwhole, (simple_wordsTree ws).shared]

/-! ### Where words stand -/

/-- A word stands at a place of a text: its characters are there, and there is no word character
beside those of its edges that are letters, digits or low lines. -/
structure StandsAt (chars : Array Char) (pos : Nat) (w : String) : Prop where
  spelled : w.toList <+: chars.toList.drop pos
  before : w.toList.head?.any needsBoundary = true → 0 < pos →
    ∀ c, chars[pos - 1]? = some c → Unicode.isWord c = false
  behind : w.toList.getLast?.any needsBoundary = true →
    ∀ c, chars[pos + w.length]? = some c → Unicode.isWord c = false

variable {t : Subject} {s : Progress} {next : Progress → Option Progress} {chars : Array Char}
  {pos : Nat}

private theorem isWord_of_needsBoundary {c : Char} (h : needsBoundary c = true) :
    Unicode.isWord c = true := by
  simp only [needsBoundary, Bool.or_eq_true, beq_iff_eq] at h
  rcases h with (rfl | hletter) | hdigit
  · decide +kernel
  · simp [Unicode.isWord, hletter]
  · simp [Unicode.isWord, hdigit]

/-- A character passes its own test only. -/
theorem accepts_toNat (c d : Char) : CharTest.accepts false (.is c.toNat) d = true ↔ d = c := by
  simp only [CharTest.accepts, foldCase, Bool.false_eq_true, ite_false, beq_iff_eq]
  exact Char.toNat_inj

private theorem spells_iff (cs : List Char) (i : Nat) :
    t.spells false (cs.map Char.toNat) i = true ↔ cs <+: t.chars.toList.drop i := by
  induction cs generalizing i with
  | nil => simp [Subject.spells]
  | cons c cs ih =>
    simp only [List.map_cons, Subject.spells, Bool.and_eq_true, ih]
    by_cases hi : i < t.chars.size
    · have hdrop : t.chars.toList.drop i = t.chars[i] :: t.chars.toList.drop (i + 1) := by
        rw [List.drop_eq_getElem_cons (by simpa using hi), Array.getElem_toList]
      rw [hdrop, List.cons_prefix_cons, Array.getElem?_eq_getElem hi, Option.any_some,
        accepts_toNat, eq_comm]
    · have hdrop : t.chars.toList.drop i = [] := by simpa using Nat.not_lt.mp hi
      rw [hdrop, Array.getElem?_eq_none (Nat.not_lt.mp hi)]
      simp

private theorem runAll_charNodes (cs : List Char) (ns : List Node) :
    Node.runAll t (cs.map charNode ++ ns) s next =
      if t.spells false (cs.map Char.toNat) s.pos then
        Node.runAll t ns { s with pos := s.pos + cs.length } next
      else none := by
  induction cs generalizing s with
  | nil => rfl
  | cons c cs ih =>
    have hliteral : (charNode c).literal? = some ([c.toNat], false) := rfl
    have hplace : s.pos + 1 + cs.length = s.pos + (cs.length + 1) := by omega
    have hrest := ih (s := { s with pos := s.pos + 1 })
    rw [List.map_cons, List.cons_append, Node.runAll_cons, Node.run_of_literal hliteral]
    simp only [List.map_cons, Subject.spells, Bool.and_true]
    cases (t.chars[s.pos]?).any (CharTest.accepts false (.is c.toNat)) with
    | false => rfl
    | true => simpa [hplace] using hrest

private theorem runAll_edgeItems (c? : Option Char) (ns : List Node) :
    Node.runAll t (edgeItems c? ++ ns) s next =
      if !c?.any needsBoundary || t.isBoundary s.pos then Node.runAll t ns s next else none := by
  unfold edgeItems
  cases c?.any needsBoundary <;> rfl

private theorem isWordAt_eq_false (i : Nat) :
    t.isWordAt i = false ↔ ∀ c, t.chars[i]? = some c → Unicode.isWord c = false := by
  unfold Subject.isWordAt
  cases t.chars[i]? <;> simp

private theorem isBoundary_before (h : t.isWordAt pos = true) :
    t.isBoundary pos = true ↔
      (0 < pos → ∀ c, t.chars[pos - 1]? = some c → Unicode.isWord c = false) := by
  rw [← isWordAt_eq_false, Subject.isBoundary, h]
  by_cases hpos : 0 < pos
  · simp [hpos]
  · simp [hpos]

private theorem isBoundary_behind (h : t.isWordAt pos = true) :
    t.isBoundary (pos + 1) = true ↔
      ∀ c, t.chars[pos + 1]? = some c → Unicode.isWord c = false := by
  rw [← isWordAt_eq_false, Subject.isBoundary, Nat.add_sub_cancel, h]
  simp

private theorem getElem?_of_spelled {cs : List Char} (h : cs <+: chars.toList.drop pos) {i : Nat}
    {c : Char}
    (hi : cs[i]? = some c) : chars[pos + i]? = some c := by
  obtain ⟨hlt, rfl⟩ := List.getElem?_eq_some_iff.mp hi
  have hget := List.prefix_iff_getElem?.mp h i hlt
  rwa [List.getElem?_drop, Array.getElem?_toList] at hget

private theorem isWordAt_of_spelled {cs : List Char} (h : cs <+: t.chars.toList.drop pos) {i : Nat}
    (hi : (cs[i]?).any needsBoundary = true) : t.isWordAt (pos + i) = true := by
  obtain ⟨c, hc, hneeds⟩ := (Option.any_eq_true _ _).mp hi
  simp [Subject.isWordAt, getElem?_of_spelled h hc, isWord_of_needsBoundary hneeds]

/-- What the pattern of a word asks for is that the word stands there. -/
theorem standsAt_iff (hw : w ≠ "") : StandsAt t.chars pos w ↔
    t.spells false (w.toList.map Char.toNat) pos = true ∧
      (w.toList.head?.any needsBoundary = true → t.isBoundary pos = true) ∧
      (w.toList.getLast?.any needsBoundary = true → t.isBoundary (pos + w.length) = true) := by
  have hpositive : 0 < w.toList.length := by
    rw [List.length_pos_iff]
    simpa using hw
  -- Beside an edge that needs a boundary the condition asks for the other side.
  have hbefore (hspelled : w.toList <+: t.chars.toList.drop pos)
      (hneeds : w.toList.head?.any needsBoundary = true) : t.isBoundary pos = true ↔
        (0 < pos → ∀ c, t.chars[pos - 1]? = some c → Unicode.isWord c = false) := by
    rw [List.head?_eq_getElem?] at hneeds
    exact isBoundary_before (isWordAt_of_spelled hspelled hneeds)
  have hbehind (hspelled : w.toList <+: t.chars.toList.drop pos)
      (hneeds : w.toList.getLast?.any needsBoundary = true) :
      t.isBoundary (pos + w.length) = true ↔
        ∀ c, t.chars[pos + w.length]? = some c → Unicode.isWord c = false := by
    have hplace : pos + w.length = pos + (w.toList.length - 1) + 1 := by
      rw [← String.length_toList]
      omega
    rw [List.getLast?_eq_getElem?] at hneeds
    rw [hplace]
    exact isBoundary_behind (isWordAt_of_spelled hspelled hneeds)
  rw [spells_iff]
  constructor
  · intro h
    exact ⟨h.spelled, fun hneeds ↦ (hbefore h.spelled hneeds).mpr (h.before hneeds),
      fun hneeds ↦ (hbehind h.spelled hneeds).mpr (h.behind hneeds)⟩
  · rintro ⟨hspelled, hhead, hlast⟩
    exact ⟨hspelled, fun hneeds ↦ (hbefore hspelled hneeds).mp (hhead hneeds),
      fun hneeds ↦ (hbehind hspelled hneeds).mp (hlast hneeds)⟩

/-- A word matches where it stands, and nowhere else. -/
theorem runAll_wordItems (hw : w ≠ "") (t : Subject) (s : Progress)
    (next : Progress → Option Progress) :
    (StandsAt t.chars s.pos w →
        Node.runAll t (wordItems w) s next = next { s with pos := s.pos + w.length }) ∧
      (¬ StandsAt t.chars s.pos w → Node.runAll t (wordItems w) s next = none) := by
  have hedge (b b' : Bool) : (b = true → b' = true) ↔ (!b || b') = true := by
    cases b <;> cases b' <;> decide
  have hrun : Node.runAll t (wordItems w) s next =
      if !w.toList.head?.any needsBoundary || t.isBoundary s.pos then
        if t.spells false (w.toList.map Char.toNat) s.pos then
          if !w.toList.getLast?.any needsBoundary || t.isBoundary (s.pos + w.length) then
            next { s with pos := s.pos + w.length }
          else none
        else none
      else none := by
    rw [wordItems, List.append_assoc, runAll_edgeItems, runAll_charNodes, String.length_toList,
      ← List.append_nil (edgeItems w.toList.getLast?), runAll_edgeItems]
    rfl
  rw [hrun, standsAt_iff hw, hedge, hedge]
  constructor
  · rintro ⟨hspelled, hhead, hlast⟩
    rw [if_pos hhead, if_pos hspelled, if_pos hlast]
  · intro hnot
    split
    · next hhead =>
      split
      · next hspelled => exact if_neg fun hlast ↦ hnot ⟨hspelled, hhead, hlast⟩
      · rfl
    · rfl

/-! ### The order of the words -/

private theorem insertByLength_perm (w : String) (ws : List String) :
    (insertByLength w ws).Perm (w :: ws) := by
  induction ws with
  | nil => exact .refl _
  | cons v vs ih =>
    unfold insertByLength
    split
    · exact .refl _
    · exact (ih.cons v).trans (.swap w v vs)

/-- No word is longer than one in front of it. -/
def Descending (ws : List String) : Prop := ws.Pairwise fun w v ↦ v.length ≤ w.length

private theorem descending_insertByLength (w : String) {ws : List String} (h : Descending ws) :
    Descending (insertByLength w ws) := by
  induction ws with
  | nil => exact List.pairwise_singleton _ _
  | cons v vs ih =>
    obtain ⟨hv, hvs⟩ := List.pairwise_cons.mp h
    unfold insertByLength
    split
    · next hlt =>
      refine List.pairwise_cons.mpr ⟨?_, h⟩
      intro u hu
      rcases List.mem_cons.mp hu with rfl | hu
      · exact Nat.le_of_lt hlt
      · exact Nat.le_trans (hv u hu) (Nat.le_of_lt hlt)
    · next hge =>
      refine List.pairwise_cons.mpr ⟨?_, ih hvs⟩
      intro u hu
      rcases List.mem_cons.mp ((insertByLength_perm w vs).mem_iff.mp hu) with rfl | hu
      · exact Nat.not_lt.mp hge
      · exact hv u hu

private theorem longestFirst_perm (words : List String) :
    (longestFirst words).Perm words ∧ Descending (longestFirst words) := by
  have hfold (sorted words : List String) (h : Descending sorted) :
      (words.foldl (fun sorted w ↦ insertByLength w sorted) sorted).Perm (sorted ++ words) ∧
        Descending (words.foldl (fun sorted w ↦ insertByLength w sorted) sorted) := by
    induction words generalizing sorted with
    | nil => exact ⟨by rw [List.append_nil]; exact .refl _, h⟩
    | cons w ws ih =>
      obtain ⟨hperm, hdescending⟩ := ih _ (descending_insertByLength w h)
      refine ⟨hperm.trans ?_, hdescending⟩
      exact ((insertByLength_perm w sorted).append_right ws).trans List.perm_middle.symm
  exact hfold [] words .nil

/-! ### The longest word -/

/-- The words are tried in their order where the search starts. -/
theorem run_wordsTree (ws : List String) (pos : Nat) :
    (wordsTree ws).run ⟨chars, pos⟩ false ⟨pos, []⟩ some =
      ws.findSome? fun w ↦ Node.runAll ⟨chars, pos⟩ (wordItems w) ⟨pos, []⟩ some := by
  have hsingle (n : Node) : Node.runFirst ⟨chars, pos⟩ [n] ⟨pos, []⟩ some =
      n.run ⟨chars, pos⟩ false ⟨pos, []⟩ some := by
    rw [Node.runFirst_cons, Node.runFirst_nil, Node.orTry_none_right]
  have hwords : Node.AreSimple [Node.sequence [alternativesTree ws]] :=
    Node.areSimple_singleton (Node.simple_sequence (Node.areSimple_singleton
      (Node.simple_alternation (areSimple_words ws))))
  have hanchored : Node.AreSimple [Node.sequence [.anchor .origin, wordsGroup ws]] :=
    Node.areSimple_singleton (Node.simple_sequence (areSimple_anchored ws))
  have horigin : Anchor.holds ⟨chars, pos⟩ pos .origin = true := by simp [Anchor.holds]
  rw [wordsTree, Node.run_alternation hanchored, hsingle, Node.run_sequence, Node.runAll_cons,
    Node.run, if_pos horigin, Node.runAll_cons]
  change (wordsGroup ws).run ⟨chars, pos⟩ false ⟨pos, []⟩ some = _
  rw [wordsGroup, Node.run_alternation hwords, hsingle, Node.run_sequence, Node.runAll_cons]
  change (alternativesTree ws).run ⟨chars, pos⟩ false ⟨pos, []⟩ some = _
  rw [alternativesTree, Node.run_alternation (areSimple_words ws), Node.runFirst,
    List.findSome?_map]
  congr
  funext w
  exact Node.run_sequence _

private theorem startsAtOrigin_wordsTree (ws : List String) :
    (wordsTree ws).startsAtOrigin = true := by
  have hfront (ns : List Node) :
      Node.consFactor (.anchor .origin) ns = .anchor .origin :: ns := by
    cases ns <;> rfl
  have hsequence : Node.sequence [.anchor .origin, wordsGroup ws] =
      Node.ofList (.anchor .origin :: (wordsGroup ws).factors.foldr Node.consFactor []) := by
    have hflat : [.anchor .origin, wordsGroup ws].flatMap Node.factors =
        .anchor .origin :: (wordsGroup ws).factors := by simp [Node.factors]
    rw [Node.sequence, hflat, List.foldr_cons, hfront]
  rw [wordsTree, hsequence]
  cases (wordsGroup ws).factors.foldr Node.consFactor [] <;> rfl

/-- What a search for words finds where it starts: nothing if none of them stands there, else the
longest of those that do. -/
def LongestStanding (chars : Array Char) (pos : Nat) (words : List String) : Option Nat → Prop
  | none => ∀ w ∈ words, ¬ StandsAt chars pos w
  | some n => ∃ w ∈ words, StandsAt chars pos w ∧ w.length = n ∧
      ∀ v ∈ words, StandsAt chars pos v → v.length ≤ n

/-- What is found does not depend on the order of the words. -/
theorem LongestStanding.perm {n? : Option Nat} (h : LongestStanding chars pos ws n?)
    (hperm : ws.Perm words) : LongestStanding chars pos words n? := by
  have hmem (w : String) : w ∈ ws ↔ w ∈ words := hperm.mem_iff
  cases n? with
  | none => exact fun w hw ↦ h w ((hmem w).mpr hw)
  | some n =>
    obtain ⟨w, hw, hstands, hlength, hlongest⟩ := h
    exact ⟨w, (hmem w).mp hw, hstands, hlength, fun v hv ↦ hlongest v ((hmem v).mpr hv)⟩

/-- There is one longest word. -/
theorem LongestStanding.unique {n? k? : Option Nat} (h : LongestStanding chars pos words n?)
    (h' : LongestStanding chars pos words k?) : n? = k? := by
  cases n? with
  | none =>
    cases k? with
    | none => rfl
    | some k =>
      obtain ⟨w, hw, hstands, -⟩ := h'
      exact absurd hstands (h w hw)
  | some n =>
    obtain ⟨w, hw, hstands, hlength, hlongest⟩ := h
    cases k? with
    | none => exact absurd hstands (h' w hw)
    | some k =>
      obtain ⟨v, hv, hstands', hlength', hlongest'⟩ := h'
      have hle := hlongest v hv hstands'
      have hle' := hlongest' w hw hstands
      rw [Option.some.injEq]
      omega

private theorem LongestStanding.cons {n? : Option Nat} (h : LongestStanding chars pos ws n?)
    (hw : ¬ StandsAt chars pos w) : LongestStanding chars pos (w :: ws) n? := by
  cases n? with
  | none => exact List.forall_mem_cons.mpr ⟨hw, h⟩
  | some n =>
    obtain ⟨v, hv, hstands, hlength, hlongest⟩ := h
    refine ⟨v, List.mem_cons_of_mem w hv, hstands, hlength, ?_⟩
    exact List.forall_mem_cons.mpr ⟨fun hstands ↦ absurd hstands hw, hlongest⟩

private theorem findSome?_longest (chars : Array Char) (pos : Nat) (hws : "" ∉ ws)
    (hdescending : Descending ws) :
    LongestStanding chars pos ws ((ws.findSome? fun w ↦
      Node.runAll ⟨chars, pos⟩ (wordItems w) ⟨pos, []⟩ some).map (·.pos - pos)) := by
  induction ws with
  | nil => exact fun w hw ↦ nomatch hw
  | cons w ws ih =>
    rw [List.mem_cons, not_or] at hws
    obtain ⟨hfirst, hrest⟩ := List.pairwise_cons.mp hdescending
    have hword := runAll_wordItems (Ne.symm hws.1) ⟨chars, pos⟩ ⟨pos, []⟩ some
    rw [List.findSome?_cons]
    by_cases hstands : StandsAt chars pos w
    · rw [hword.1 hstands]
      refine ⟨w, List.mem_cons_self, hstands, by simp, ?_⟩
      intro v hv _
      rcases List.mem_cons.mp hv with rfl | hv
      · simp
      · simpa using hfirst v hv
    · rw [hword.2 hstands]
      exact (ih hws.2 hrest).cons hstands

/-- The pattern of words is accepted, and a search for it finds the longest word that stands where
it starts. -/
theorem compileAnchored_words (hwords : words ≠ []) (hnonempty : "" ∉ words)
    (hfaithful : ∀ w ∈ words, IsFaithful w) (grammar path : String) :
    ∃ p, compileAnchored grammar path (wordsPattern words) = .ok p ∧
      ∀ chars pos, ∃ n?, p.matchLength? chars pos = .ok n? ∧
        LongestStanding chars pos words n? := by
  obtain ⟨hperm, hdescending⟩ := longestFirst_perm words
  have hmem (w : String) : w ∈ longestFirst words ↔ w ∈ words := hperm.mem_iff
  have hsome : longestFirst words ≠ [] := by
    intro hnil
    rw [hnil] at hperm
    exact hwords hperm.nil_eq.symm
  have htext : ("\\G(?:" ++ wordsPattern words ++ ")").toList =
      '\\' :: 'G' :: '(' :: '?' :: ':' :: '(' :: '?' :: ':' ::
        (alternativesText (longestFirst words) ++ [')', ')']) := by
    simp [wordsPattern, alternativesText, String.toList_append]
  have hparse := parse_words hsome (fun w hw ↦ hfaithful w ((hmem w).mp hw)) htext
  refine ⟨_, compilePattern_eq_ok.mpr ⟨_, hparse, rfl⟩, ?_⟩
  intro chars pos
  have hlongest := findSome?_longest chars pos (fun h ↦ hnonempty ((hmem "").mp h)) hdescending
  refine ⟨_, ?_, hlongest.perm hperm⟩
  have hsteady := (simple_wordsTree (longestFirst words)).isSteady
  simp only [Pattern.matchLength?, Pattern.ofNode, hsteady, ite_true, Pattern.steadyLength?,
    startsAtOrigin_wordsTree, Pattern.lengthAt?, run_wordsTree]

/-- A list of words matches its longest word. Words whose characters are read as they are written
make a pattern that is accepted. Wherever a search for it starts, it finds a match exactly if one of
the words stands there, and the match is the longest of those that do; so the order in which the
words are listed does not matter. -/
theorem words_match_longest (hproper : ProperWords words)
    (hfaithful : ∀ w ∈ words, IsFaithful w) (grammar path : String) :
    ∃ p, compileAnchored grammar path (wordsPattern words) = .ok p ∧
      (∀ chars pos, ∃ n?, p.matchLength? chars pos = .ok n? ∧
        ((∃ n, n? = some n) ↔ ∃ w ∈ words, StandsAt chars pos w) ∧
        ∀ n, n? = some n → ∃ w ∈ words, StandsAt chars pos w ∧ w.length = n ∧
          ∀ v ∈ words, StandsAt chars pos v → v.length ≤ n) ∧
      ∀ listed : List String, listed.Perm words →
        ∃ p', compileAnchored grammar path (wordsPattern listed) = .ok p' ∧
          ∀ chars pos, p'.matchLength? chars pos = p.matchLength? chars pos := by
  obtain ⟨p, hp, hfinds⟩ :=
    compileAnchored_words hproper.some hproper.nonempty hfaithful grammar path
  refine ⟨p, hp, ?_, ?_⟩
  · intro chars pos
    obtain ⟨n?, hn, hlongest⟩ := hfinds chars pos
    refine ⟨n?, hn, ?_, ?_⟩
    · cases n? with
      | none =>
        constructor
        · rintro ⟨n, h⟩
          cases h
        · rintro ⟨w, hw, hstands⟩
          exact absurd hstands (hlongest w hw)
      | some n =>
        obtain ⟨w, hw, hstands, -⟩ := hlongest
        exact iff_of_true ⟨n, rfl⟩ ⟨w, hw, hstands⟩
    · rintro n rfl
      exact hlongest
  · intro listed hperm
    have hmem (w : String) : w ∈ listed ↔ w ∈ words := hperm.mem_iff
    have hsome : listed ≠ [] := by
      rintro rfl
      exact hproper.some hperm.nil_eq.symm
    obtain ⟨p', hp', hfinds'⟩ := compileAnchored_words hsome
      (fun h ↦ hproper.nonempty ((hmem "").mp h)) (fun w hw ↦ hfaithful w ((hmem w).mp hw)) grammar
      path
    refine ⟨p', hp', ?_⟩
    intro chars pos
    obtain ⟨n?, hn, hlongest⟩ := hfinds chars pos
    obtain ⟨k?, hk, hlongest'⟩ := hfinds' chars pos
    rw [hn, hk, hlongest.unique (hlongest'.perm hperm)]

/-- The beginning of a word is not taken for the word. -/
theorem words_match_longest_inline :
    ProperWords ["in", "inline", "<="] ∧ (∀ w ∈ ["in", "inline", "<="], IsFaithful w) ∧
      ∃ p, compileAnchored "words" "categories[0]" (wordsPattern ["in", "inline", "<="]) = .ok p ∧
        ∃ n, p.matchLength? "inline".toList.toArray 0 = .ok (some n) ∧ 6 ≤ n := by
  have hproper : ProperWords ["in", "inline", "<="] := ⟨by decide, by decide, by decide⟩
  have hfaithful : ∀ w ∈ ["in", "inline", "<="], IsFaithful w := by decide +kernel
  obtain ⟨p, hp, hfinds, -⟩ := words_match_longest hproper hfaithful "words" "categories[0]"
  obtain ⟨n?, hn, hfound, hlongest⟩ := hfinds "inline".toList.toArray 0
  have hstands : StandsAt "inline".toList.toArray 0 "inline" := by
    refine ⟨by decide +kernel, ?_, ?_⟩
    · intro _ h
      exact absurd h (Nat.lt_irrefl 0)
    · intro _ c hc
      have hnone : "inline".toList.toArray[0 + "inline".length]? = none := by decide +kernel
      rw [hnone] at hc
      cases hc
  obtain ⟨n, rfl⟩ := hfound.mpr ⟨"inline", by decide, hstands⟩
  obtain ⟨-, -, -, -, hle⟩ := hlongest n rfl
  exact ⟨hproper, hfaithful, p, hp, n, hn, hle "inline" (by decide) hstands⟩

end CodeViewer
