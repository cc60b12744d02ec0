import CodeViewer.Pattern.Matcher
import CodeViewer.Pattern.Shared

/-!
# What simplified trees match

Sequences and alternations are simplified when they are put together. From left to right a
simplified sequence still matches its parts one after the other, and a simplified alternation tries
its alternatives in their order, as long as the sets that are united name code points only.
-/

namespace CodeViewer.Pattern

variable {t : Subject} {next : Progress → Option Progress} {s : Progress}

namespace Node

/-- Match several trees one after the other and then `next` behind them. -/
def runAll (t : Subject) : List Node → Progress → (Progress → Option Progress) → Option Progress
  | [], s, next => next s
  | n :: ns, s, next => n.run t false s fun s ↦ runAll t ns s next

/-- Match the first of several trees behind which `next` matches. -/
def runFirst (t : Subject) (ns : List Node) (s : Progress) (next : Progress → Option Progress) :
    Option Progress :=
  ns.findSome? fun n ↦ n.run t false s next

@[simp] private theorem runAll_nil : runAll t [] s next = next s := rfl

/-- Trees in a row match one behind the other. -/
@[simp] theorem runAll_cons (n : Node) (ns : List Node) :
    runAll t (n :: ns) s next = n.run t false s fun s ↦ runAll t ns s next := rfl

/-- Without an alternative nothing matches. -/
@[simp] theorem runFirst_nil : runFirst t [] s next = none := rfl

/-- The first alternative is tried before the others. -/
theorem runFirst_cons (n : Node) (ns : List Node) :
    runFirst t (n :: ns) s next = orTry (n.run t false s next) fun _ ↦ runFirst t ns s next := by
  unfold runFirst orTry
  rw [List.findSome?_cons]
  rfl

/-! ### Sequences -/

private theorem runAll_append (ns ms : List Node) :
    runAll t (ns ++ ms) s next = runAll t ns s fun s ↦ runAll t ms s next := by
  induction ns generalizing s with
  | nil => rfl
  | cons n ns ih => simp only [List.cons_append, runAll_cons, ih]

/-- A concatenation matches its parts in order. -/
theorem run_ofList (ns : List Node) : (ofList ns).run t false s next = runAll t ns s next := by
  induction ns generalizing s with
  | nil => rfl
  | cons n ns ih =>
    cases ns with
    | nil => rfl
    | cons m ms => simp only [ofList, run, ih, runAll_cons, Bool.false_eq_true, ite_false]

/-- A tree matches what its parts match in order. -/
theorem runAll_factors (n : Node) : runAll t n.factors s next = n.run t false s next := by
  induction n generalizing s next with
  | seq first second ihfirst ihsecond =>
    simp only [factors, runAll_append, ihfirst, ihsecond, run, Bool.false_eq_true, ite_false]
  | _ => rfl

private theorem spells_append (folded : Bool) (codes more : List Nat) (i : Nat) :
    t.spells folded (codes ++ more) i =
      (t.spells folded codes i && t.spells folded more (i + codes.length)) := by
  induction codes generalizing i with
  | nil => simp [Subject.spells]
  | cons code codes ih =>
    have hplace : i + 1 + codes.length = i + (codes.length + 1) := by omega
    simp only [List.cons_append, Subject.spells, ih, Bool.and_assoc, List.length_cons, hplace]

/-- What stands for itself matches as a text does. -/
theorem run_of_literal {n : Node} {codes : List Nat} {folded : Bool}
    (h : n.literal? = some (codes, folded)) :
    n.run t false s next =
      if t.spells folded codes s.pos then next { s with pos := s.pos + codes.length }
      else none := by
  have htext : (Node.text codes folded).run t false s next =
      if t.spells folded codes s.pos then next { s with pos := s.pos + codes.length }
      else none := by
    simp only [run, Subject.behindText?, Bool.false_eq_true, ite_false]
    cases t.spells folded codes s.pos <;> rfl
  unfold literal? at h
  split at h
  · next code folded' =>
    cases h
    rw [← htext]
    simp [run, Subject.behindChar?, Subject.behindText?, Subject.spells]
  · cases h
    exact htext
  · cases h

private theorem runAll_consFactor (n : Node) (ns : List Node) :
    runAll t (consFactor n ns) s next = runAll t (n :: ns) s next := by
  unfold consFactor
  split
  · rfl
  · next m ns =>
    split
    · next codes folded more folded' hn hm =>
      split
      · next hfolded =>
        subst hfolded
        have hboth : (Node.text (codes ++ more) folded).literal? =
            some (codes ++ more, folded) := rfl
        simp only [runAll_cons, run_of_literal hn, run_of_literal hm, run_of_literal hboth,
          spells_append, List.length_append]
        cases t.spells folded codes s.pos
        · rfl
        · simp [Nat.add_assoc]
      · rfl
    · rfl

/-- A sequence matches its items one after the other. -/
theorem run_sequence (items : List Node) :
    (sequence items).run t false s next = runAll t items s next := by
  unfold sequence
  rw [run_ofList]
  have hmerged (ns : List Node) (s : Progress) :
      runAll t (ns.foldr consFactor []) s next = runAll t ns s next := by
    induction ns generalizing s with
    | nil => rfl
    | cons n ns ih => simp only [List.foldr_cons, runAll_consFactor, runAll_cons, ih]
  rw [hmerged]
  induction items generalizing s with
  | nil => rfl
  | cons n ns ih => simp only [List.flatMap_cons, runAll_append, runAll_factors, runAll_cons, ih]

end Node

/-! ### Ranges of code points -/

/-- A code point lies in one of the ranges. -/
def InRanges (ranges : List (Nat × Nat)) (n : Nat) : Prop := ∃ r ∈ ranges, r.1 ≤ n ∧ n ≤ r.2

/-- A range from a character to one that is not before it. -/
def ProperRange (r : Nat × Nat) : Prop := r.1 ≤ r.2 ∧ r.1.isValidChar ∧ r.2.isValidChar

private theorem inRanges_cons (r : Nat × Nat) (ranges : List (Nat × Nat)) (n : Nat) :
    InRanges (r :: ranges) n ↔ (r.1 ≤ n ∧ n ≤ r.2) ∨ InRanges ranges n := by
  simp [InRanges]

private theorem ProperRange.unite {first last a b : Nat} (h : ProperRange (first, last))
    (hab : ProperRange (a, b)) : ProperRange (min first a, max last b) := by
  obtain ⟨hle, hfirst, hlast⟩ := h
  obtain ⟨hle', ha, hb⟩ := hab
  refine ⟨?_, ?_, ?_⟩
  · simp only at hle hle' ⊢
    omega
  · change (min first a).isValidChar
    rcases Nat.le_total first a with h | h
    · rwa [Nat.min_eq_left h]
    · rwa [Nat.min_eq_right h]
  · change (max last b).isValidChar
    rcases Nat.le_total last b with h | h
    · rwa [Nat.max_eq_right h]
    · rwa [Nat.max_eq_left h]

private theorem properRange_insertRange {ranges : List (Nat × Nat)} {first last : Nat}
    (hrange : ProperRange (first, last)) (hranges : ∀ r ∈ ranges, ProperRange r) :
    ∀ r ∈ insertRange first last ranges, ProperRange r := by
  induction ranges generalizing first last with
  | nil => simpa [insertRange] using hrange
  | cons r rest ih =>
    obtain ⟨a, b⟩ := r
    obtain ⟨hab, hrest⟩ := List.forall_mem_cons.mp hranges
    unfold insertRange
    split
    · exact List.forall_mem_cons.mpr ⟨hrange, hranges⟩
    · split
      · exact List.forall_mem_cons.mpr ⟨hab, ih hrange hrest⟩
      · exact ih (hrange.unite hab) hrest

private theorem inRanges_insertRange {ranges : List (Nat × Nat)} {first last : Nat}
    (hrange : ProperRange (first, last)) (hranges : ∀ r ∈ ranges, ProperRange r) (n : Nat) :
    InRanges (insertRange first last ranges) n ↔
      (first ≤ n ∧ n ≤ last) ∨ InRanges ranges n := by
  induction ranges generalizing first last with
  | nil => simp [insertRange, InRanges]
  | cons r rest ih =>
    obtain ⟨a, b⟩ := r
    obtain ⟨hab, hrest⟩ := List.forall_mem_cons.mp hranges
    unfold insertRange
    split
    · rw [inRanges_cons]
    · split
      · rw [inRanges_cons, ih hrange hrest, inRanges_cons]
        exact or_left_comm
      · rw [ih (hrange.unite hab) hrest, inRanges_cons, ← or_assoc]
        refine or_congr_left ?_
        have hle : first ≤ last := hrange.1
        have hle' : a ≤ b := hab.1
        simp only
        omega

private theorem inRanges_insertRanges {ranges added : List (Nat × Nat)}
    (hranges : ∀ r ∈ ranges, ProperRange r) (hadded : ∀ r ∈ added, ProperRange r) :
    (∀ r ∈ insertRanges ranges added, ProperRange r) ∧
      ∀ n, InRanges (insertRanges ranges added) n ↔ InRanges ranges n ∨ InRanges added n := by
  induction added generalizing ranges with
  | nil => exact ⟨hranges, fun n ↦ by simp [insertRanges, InRanges]⟩
  | cons r rest ih =>
    obtain ⟨hr, hrest⟩ := List.forall_mem_cons.mp hadded
    obtain ⟨hproper, hin⟩ := ih (properRange_insertRange hr hranges) hrest
    refine ⟨hproper, fun n ↦ ?_⟩
    refine (hin n).trans ?_
    rw [inRanges_insertRange hr hranges, inRanges_cons, or_assoc]
    exact or_left_comm

/-! ### Sets of code points -/

/-- A set that consists of ranges between characters. -/
structure CharSet.OfRanges (s : CharSet) : Prop where
  ranges : ∀ r ∈ s.base.ranges, ProperRange r
  classes : s.base.classes = []
  negated : s.base.negated = false
  minus : s.minus = []

private theorem CharSet.OfRanges.contains_iff {set : CharSet} (h : set.OfRanges) (c : Char) :
    set.contains c = true ↔ InRanges set.base.ranges c.toNat := by
  simp [CharSet.contains, remains, h.minus, Layer.contains, h.classes, h.negated, classVerdict,
    InRanges]

/-- The union of two sets of ranges is one, and holds what either does. -/
theorem CharSet.OfRanges.union {set other : CharSet} (h : set.OfRanges) (h' : other.OfRanges) :
    (set.union other).OfRanges ∧
      ∀ c, (set.union other).contains c = (set.contains c || other.contains c) := by
  obtain ⟨hproper, hin⟩ := inRanges_insertRanges h.ranges h'.ranges
  have hbase : (set.union other).base =
      { set.base with ranges := insertRanges set.base.ranges other.base.ranges } := by
    simp [CharSet.union, CharSet.ofLayer, Layer.union, Layer.addClasses, h'.classes]
  have hunion : (set.union other).OfRanges := by
    refine ⟨?_, ?_, ?_, rfl⟩
    · rw [hbase]
      exact hproper
    · rw [hbase]
      exact h.classes
    · rw [hbase]
      exact h.negated
  refine ⟨hunion, fun c ↦ ?_⟩
  rw [Bool.eq_iff_iff, Bool.or_eq_true, hunion.contains_iff, h.contains_iff, h'.contains_iff, hbase]
  exact hin c.toNat

private theorem ofRanges_addCode {code : Nat} (h : code.isValidChar) :
    (CharSet.ofLayer ((Layer.empty false).addCode code)).OfRanges := by
  refine ⟨?_, rfl, rfl, rfl⟩
  intro r hr
  have hr : r = (code, code) := by
    simpa [CharSet.ofLayer, Layer.addCode, Layer.addRange, Layer.empty, insertRange] using hr
  rw [hr]
  exact ⟨Nat.le_refl _, h, h⟩

/-! ### Trees of characters -/

/-- A tree in which only characters, ranges between characters and anchors occur. -/
inductive Node.Simple : Node → Prop where
  | empty : Simple .empty
  | nothing : Simple .nothing
  | code {code : Nat} {folded : Bool} : code.isValidChar → Simple (.char (.is code) folded)
  | set {set : CharSet} {folded : Bool} : set.OfRanges → Simple (.char (.isIn set) folded)
  | text {codes : List Nat} {folded : Bool} : (∀ code ∈ codes, code.isValidChar) →
      Simple (.text codes folded)
  | anchor {a : Anchor} : Simple (.anchor a)
  | seq {first second : Node} : Simple first → Simple second → Simple (.seq first second)
  | alt {first second : Node} : Simple first → Simple second → Simple (.alt first second)

namespace Node

/-- The trees of a list are simple. -/
def AreSimple (ns : List Node) : Prop := ∀ n ∈ ns, n.Simple

/-- No trees are simple trees. -/
theorem areSimple_nil : AreSimple [] := fun _ h ↦ nomatch h

/-- Trees are simple if the first one and the others are. -/
theorem areSimple_cons {n : Node} {ns : List Node} :
    AreSimple (n :: ns) ↔ n.Simple ∧ AreSimple ns := List.forall_mem_cons

/-- Trees are simple if those of both parts are. -/
theorem areSimple_append {ns ms : List Node} :
    AreSimple (ns ++ ms) ↔ AreSimple ns ∧ AreSimple ms := List.forall_mem_append

/-- Simple trees are steady. -/
theorem Simple.isSteady {n : Node} (h : n.Simple) : n.isSteady = true := by
  induction h with
  | seq _ _ ihfirst ihsecond => simp [Node.isSteady, ihfirst, ihsecond]
  | alt _ _ ihfirst ihsecond => simp [Node.isSteady, ihfirst, ihsecond]
  | _ => rfl

private theorem Simple.literal {n : Node} (h : n.Simple) {codes : List Nat} {folded : Bool}
    (hn : n.literal? = some (codes, folded)) : ∀ code ∈ codes, code.isValidChar := by
  cases h with
  | code hcode =>
    cases hn
    simpa using hcode
  | text hcodes =>
    cases hn
    exact hcodes
  | _ => cases hn

private theorem simple_ofList {ns : List Node} (h : AreSimple ns) : (ofList ns).Simple := by
  induction ns with
  | nil => exact .empty
  | cons n ns ih =>
    obtain ⟨hn, hns⟩ := areSimple_cons.mp h
    cases ns with
    | nil => exact hn
    | cons m ms => exact .seq hn (ih hns)

/-- A simple tree is a row of simple trees. -/
theorem areSimple_singleton {n : Node} (h : n.Simple) : AreSimple [n] :=
  areSimple_cons.mpr ⟨h, areSimple_nil⟩

private theorem areSimple_factors {n : Node} (h : n.Simple) : AreSimple n.factors := by
  induction h with
  | empty => exact areSimple_nil
  | seq _ _ ihfirst ihsecond => exact areSimple_append.mpr ⟨ihfirst, ihsecond⟩
  | nothing => exact areSimple_singleton .nothing
  | code hcode => exact areSimple_singleton (.code hcode)
  | set hset => exact areSimple_singleton (.set hset)
  | text hcodes => exact areSimple_singleton (.text hcodes)
  | anchor => exact areSimple_singleton .anchor
  | alt hfirst hsecond _ _ => exact areSimple_singleton (.alt hfirst hsecond)

private theorem areSimple_consFactor {n : Node} {ns : List Node} (hn : n.Simple)
    (hns : AreSimple ns) :
    AreSimple (consFactor n ns) := by
  unfold consFactor
  split
  · exact areSimple_singleton hn
  · next m ms =>
    have hboth : AreSimple (n :: m :: ms) := areSimple_cons.mpr ⟨hn, hns⟩
    obtain ⟨hm, hms⟩ := areSimple_cons.mp hns
    split
    · next codes folded more folded' hcodes hmore =>
      split
      · refine areSimple_cons.mpr ⟨.text ?_, hms⟩
        exact List.forall_mem_append.mpr ⟨hn.literal hcodes, hm.literal hmore⟩
      · exact hboth
    · exact hboth

/-- A sequence of simple trees is simple. -/
theorem simple_sequence {items : List Node} (h : AreSimple items) : (sequence items).Simple := by
  have hfactors : AreSimple (items.flatMap factors) := by
    intro m hm
    obtain ⟨n, hn, hm⟩ := List.mem_flatMap.mp hm
    exact areSimple_factors (h n hn) m hm
  have hmerged {ns : List Node} (hns : AreSimple ns) : AreSimple (ns.foldr consFactor []) := by
    induction ns with
    | nil => exact areSimple_nil
    | cons n ns ih =>
      obtain ⟨hn, hns⟩ := areSimple_cons.mp hns
      exact areSimple_consFactor hn (ih hns)
  exact simple_ofList (hmerged hfactors)

/-! ### Alternations -/

private theorem runFirst_append (ns ms : List Node) :
    runFirst t (ns ++ ms) s next = orTry (runFirst t ns s next) fun _ ↦ runFirst t ms s next := by
  unfold runFirst orTry
  rw [List.findSome?_append]
  cases List.findSome? (fun n ↦ n.run t false s next) ns <;> rfl

/-- A second choice that always fails does not matter. -/
theorem orTry_none_right {α : Type} (first : Option α) : orTry first (fun _ ↦ none) = first := by
  cases first <;> rfl

/-- Alternatives are tried in order. -/
theorem run_ofAlternatives (ns : List Node) :
    (ofAlternatives ns).run t false s next = runFirst t ns s next := by
  induction ns with
  | nil => rfl
  | cons n ns ih =>
    cases ns with
    | nil => rw [runFirst_cons, runFirst_nil, orTry_none_right]; rfl
    | cons m ms => rw [runFirst_cons, ← ih]; rfl

/-- A tree matches as the first of its alternatives that does. -/
theorem runFirst_alternatives (n : Node) :
    runFirst t n.alternatives s next = n.run t false s next := by
  induction n with
  | nothing => rfl
  | alt first second ihfirst ihsecond =>
    simp only [alternatives, runFirst_append, ihfirst, ihsecond, run]
  | _ => simp only [alternatives, runFirst_cons, runFirst_nil, orTry_none_right]

/-- A set matches one of its characters. -/
theorem run_isIn (set : CharSet) (folded : Bool) :
    (Node.char (.isIn set) folded).run t false s next =
      if (t.chars[s.pos]?).any (fun c ↦ set.contains (foldCase folded c)) then
        next { s with pos := s.pos + 1 }
      else none := by
  have haccepts : CharTest.accepts folded (.isIn set) =
      fun c ↦ set.contains (foldCase folded c) := rfl
  simp only [run, Subject.behindChar?, Bool.false_eq_true, ite_false, haccepts]
  cases (t.chars[s.pos]?).any fun c ↦ set.contains (foldCase folded c) <;> rfl

private theorem Simple.plainSet {n : Node} (h : n.Simple) {set : CharSet} {folded : Bool}
    (hn : n.plainSet? = some (set, folded)) :
    set.OfRanges ∧ ∀ (t : Subject) (s : Progress) (next : Progress → Option Progress),
      n.run t false s next = (Node.char (.isIn set) folded).run t false s next := by
  cases h with
  | @code code folded' hcode =>
    simp only [plainSet?, CharTest.plainSet?, Option.map_some, Option.some.injEq,
      Prod.mk.injEq] at hn
    obtain ⟨rfl, rfl⟩ := hn
    have hset := ofRanges_addCode hcode
    refine ⟨hset, fun t s next ↦ ?_⟩
    have haccepts : CharTest.accepts folded' (.is code) = CharTest.accepts folded'
        (.isIn (.ofLayer ((Layer.empty false).addCode code))) := by
      funext c
      rw [Bool.eq_iff_iff]
      simp only [CharTest.accepts, hset.contains_iff, beq_iff_eq]
      simp only [InRanges, CharSet.ofLayer, Layer.addCode, Layer.addRange, Layer.empty,
        insertRange, List.mem_singleton, exists_eq_left]
      omega
    simp only [run, haccepts]
  | @set set' folded' hset =>
    simp only [plainSet?, CharTest.plainSet?] at hn
    split at hn
    · simp only [Option.map_some, Option.some.injEq, Prod.mk.injEq] at hn
      obtain ⟨rfl, rfl⟩ := hn
      exact ⟨hset, fun t s next ↦ rfl⟩
    · cases hn
  | _ => cases hn

private theorem simple_ofAlternatives {ns : List Node} (h : AreSimple ns) :
    (ofAlternatives ns).Simple := by
  induction ns with
  | nil => exact .nothing
  | cons n ns ih =>
    obtain ⟨hn, hns⟩ := areSimple_cons.mp h
    cases ns with
    | nil => exact hn
    | cons m ms => exact .alt hn (ih hns)

private theorem areSimple_alternatives {n : Node} (h : n.Simple) : AreSimple n.alternatives := by
  induction h with
  | nothing => exact areSimple_nil
  | alt _ _ ihfirst ihsecond => exact areSimple_append.mpr ⟨ihfirst, ihsecond⟩
  | empty => exact areSimple_singleton .empty
  | code hcode => exact areSimple_singleton (.code hcode)
  | set hset => exact areSimple_singleton (.set hset)
  | text hcodes => exact areSimple_singleton (.text hcodes)
  | anchor => exact areSimple_singleton .anchor
  | seq hfirst hsecond _ _ => exact areSimple_singleton (.seq hfirst hsecond)

private theorem areSimple_consAlternative {n : Node} {ns : List Node} (hn : n.Simple)
    (hns : AreSimple ns) : AreSimple (consAlternative n ns) := by
  unfold consAlternative
  split
  · exact areSimple_singleton hn
  · next m ms =>
    have hboth : AreSimple (n :: m :: ms) := areSimple_cons.mpr ⟨hn, hns⟩
    obtain ⟨hm, hms⟩ := areSimple_cons.mp hns
    split
    · next set folded other folded' hset hother =>
      split
      · exact areSimple_cons.mpr ⟨.set ((hn.plainSet hset).1.union (hm.plainSet hother).1).1, hms⟩
      · exact hboth
    · exact hboth

private theorem runFirst_consAlternative {n : Node} {ns : List Node} (hn : n.Simple)
    (hns : AreSimple ns) :
    runFirst t (consAlternative n ns) s next = runFirst t (n :: ns) s next := by
  unfold consAlternative
  split
  · rfl
  · next m ms =>
    obtain ⟨hm, -⟩ := areSimple_cons.mp hns
    split
    · next set folded other folded' hset hother =>
      split
      · next hfolded =>
        subst hfolded
        obtain ⟨hranges, hrun⟩ := hn.plainSet hset
        obtain ⟨hranges', hrun'⟩ := hm.plainSet hother
        obtain ⟨-, hcontains⟩ := hranges.union hranges'
        have heither : (t.chars[s.pos]?).any
            (fun c ↦ (set.union other).contains (foldCase folded c)) =
              ((t.chars[s.pos]?).any (fun c ↦ set.contains (foldCase folded c)) ||
                (t.chars[s.pos]?).any (fun c ↦ other.contains (foldCase folded c))) := by
          cases t.chars[s.pos]? with
          | none => rfl
          | some c => exact hcontains _
        rw [runFirst_cons, runFirst_cons, runFirst_cons, hrun, hrun', run_isIn, run_isIn, run_isIn,
          heither]
        -- Behind a character of both sets the second one brings nothing new.
        cases next { s with pos := s.pos + 1 } <;>
          cases (t.chars[s.pos]?).any (fun c ↦ set.contains (foldCase folded c)) <;>
          cases (t.chars[s.pos]?).any (fun c ↦ other.contains (foldCase folded c)) <;> rfl
      · rfl
    · rfl

private theorem areSimple_foldr_consAlternative {ns : List Node} (h : AreSimple ns) :
    AreSimple (ns.foldr consAlternative []) := by
  induction ns with
  | nil => exact areSimple_nil
  | cons n ns ih =>
    obtain ⟨hn, hns⟩ := areSimple_cons.mp h
    exact areSimple_consAlternative hn (ih hns)

private theorem areSimple_flatMap_alternatives {items : List Node} (h : AreSimple items) :
    AreSimple (items.flatMap alternatives) := by
  intro m hm
  obtain ⟨n, hn, hm⟩ := List.mem_flatMap.mp hm
  exact areSimple_alternatives (h n hn) m hm

/-- An alternation of simple trees is simple. -/
theorem simple_alternation {items : List Node} (h : AreSimple items) : (alternation items).Simple :=
  simple_ofAlternatives (areSimple_foldr_consAlternative (areSimple_flatMap_alternatives h))

/-- An alternation of simple trees matches as the first of them that does. -/
theorem run_alternation {items : List Node} (h : AreSimple items) :
    (alternation items).run t false s next = runFirst t items s next := by
  have hmerged {ns : List Node} (hns : AreSimple ns) :
      runFirst t (ns.foldr consAlternative []) s next = runFirst t ns s next := by
    induction ns with
    | nil => rfl
    | cons n ns ih =>
      obtain ⟨hn, hns⟩ := areSimple_cons.mp hns
      rw [List.foldr_cons, runFirst_consAlternative hn (areSimple_foldr_consAlternative hns),
        runFirst_cons, ih hns, runFirst_cons]
  unfold alternation
  rw [run_ofAlternatives, hmerged (areSimple_flatMap_alternatives h)]
  clear h hmerged
  induction items with
  | nil => rfl
  | cons n ns ih =>
    rw [List.flatMap_cons, runFirst_append, runFirst_alternatives, ih, runFirst_cons]

end Node

/-! ### Shared texts and sets -/

private theorem shownNat_of_isValidChar {code : Nat} (h : code.isValidChar) :
    shownNat code = code := by
  rw [shownNat, shownCode, if_pos h, Char.ofNat, dif_pos h]
  rfl

private theorem CharSet.OfRanges.shown {set : CharSet} (h : set.OfRanges) : set.shown = set := by
  have hranges : set.base.ranges.map (fun r ↦ (shownNat r.1, shownNat r.2)) = set.base.ranges := by
    refine (List.map_congr_left fun r hr ↦ ?_).trans (List.map_id _)
    obtain ⟨-, hfirst, hlast⟩ := h.ranges r hr
    rw [shownNat_of_isValidChar hfirst, shownNat_of_isValidChar hlast]
    rfl
  have hbase : set.base.shown = set.base := by rw [Layer.shown, hranges]
  rw [CharSet.shown, hbase, h.minus, List.map_nil, ← h.minus]

/-- All texts and sets met so far look like themselves. -/
structure Shared.Plain (s : Shared) : Prop where
  texts : ∀ x ∈ s.texts, x.1 = x.2
  sets : ∀ x ∈ s.sets, x.1 = x.2

private theorem eq_of_lookup {α : Type} [BEq α] [LawfulBEq α] {xs : List (α × α)} {a b : α}
    (hxs : ∀ x ∈ xs, x.1 = x.2) (h : xs.lookup a = some b) : b = a := by
  obtain ⟨front, back, rfl, -⟩ := List.lookup_eq_some_iff.mp h
  exact (hxs (a, b) (by simp)).symm

private theorem Shared.Plain.text {s : Shared} (hs : s.Plain) {codes : List Nat}
    (h : ∀ code ∈ codes, code.isValidChar) : (s.text codes).1 = codes ∧ (s.text codes).2.Plain := by
  have hlook : codes.map shownNat = codes :=
    (List.map_congr_left fun code hcode ↦ shownNat_of_isValidChar (h code hcode)).trans
      (List.map_id _)
  simp only [Shared.text, hlook]
  cases hfound : s.texts.lookup codes with
  | none => exact ⟨rfl, List.forall_mem_cons.mpr ⟨rfl, hs.texts⟩, hs.sets⟩
  | some first => exact ⟨eq_of_lookup hs.texts hfound, hs⟩

private theorem Shared.Plain.test {s : Shared} (hs : s.Plain) {set : CharSet} (h : set.OfRanges) :
    (s.test (.isIn set)).1 = .isIn set ∧ (s.test (.isIn set)).2.Plain := by
  simp only [Shared.test, h.shown]
  cases hfound : s.sets.lookup set with
  | none => exact ⟨rfl, hs.texts, List.forall_mem_cons.mpr ⟨rfl, hs.sets⟩⟩
  | some first => exact ⟨congrArg CharTest.isIn (eq_of_lookup hs.sets hfound), hs⟩

/-- A simple tree shares its texts and sets with itself only. -/
theorem Node.Simple.share {n : Node} (h : n.Simple) {s : Shared} (hs : s.Plain) :
    (n.share false s).1 = n ∧ (n.share false s).2.Plain := by
  induction h generalizing s with
  | empty | nothing | anchor | code => exact ⟨rfl, hs⟩
  | @text codes folded h =>
    obtain ⟨hcodes, hplain⟩ := hs.text h
    exact ⟨congrArg (Node.text · folded) hcodes, hplain⟩
  | @set set folded h =>
    obtain ⟨hset, hplain⟩ := hs.test h
    exact ⟨congrArg (Node.char · folded) hset, hplain⟩
  | seq _ _ ihfirst ihsecond =>
    obtain ⟨hfirst, hplain⟩ := ihfirst hs
    obtain ⟨hsecond, hplain'⟩ := ihsecond hplain
    exact ⟨by simp only [Node.share, hfirst, hsecond, Bool.false_eq_true, ite_false], hplain'⟩
  | alt _ _ ihfirst ihsecond =>
    obtain ⟨hfirst, hplain⟩ := ihfirst hs
    obtain ⟨hsecond, hplain'⟩ := ihsecond hplain
    exact ⟨by simp only [Node.share, hfirst, hsecond], hplain'⟩

/-- A simple tree is as it would be if it shared its texts and sets. -/
theorem Node.Simple.shared {n : Node} (h : n.Simple) : n.shared = n :=
  (h.share ⟨by simp, by simp⟩).1

end CodeViewer.Pattern
