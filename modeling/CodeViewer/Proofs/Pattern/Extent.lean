import CodeViewer.Pattern.Search

/-!
# Matches along the tree stay in the text

A tree is matched in front of a continuation. Whatever the tree, the continuation is only asked
at places of the text, so that a match of a steady pattern never reaches beyond the end.
-/

namespace CodeViewer.Pattern

/-- A way of matching asks its continuation at places of the text only. -/
def StaysWithin (t : Subject)
    (f : Progress → (Progress → Option Progress) → Option Progress) : Prop :=
  ∀ s next r, s.pos ≤ t.chars.size → f s next = some r →
    ∃ s', s'.pos ≤ t.chars.size ∧ next s' = some r

/-! ### Characters and texts -/

private theorem lt_of_any {cs : Array Char} {i : Nat} {p : Char → Bool}
    (h : (cs[i]?).any p = true) : i < cs.size := by
  rw [Option.any_eq_true] at h
  obtain ⟨c, hc, -⟩ := h
  exact (Array.getElem?_eq_some_iff.mp hc).1

private theorem behindChar?_le {t : Subject} {back : Bool} {p : Char → Bool} {pos pos' : Nat}
    (hs : pos ≤ t.chars.size) (h : t.behindChar? back p pos = some pos') :
    pos' ≤ t.chars.size := by
  unfold Subject.behindChar? at h
  split at h
  · split at h
    · cases h
    · split at h
      · cases h
        omega
      · cases h
  · split at h
    · next ha =>
      cases h
      exact lt_of_any ha
    · cases h

private theorem spells_le {t : Subject} {folded : Bool} {codes : List Nat} {i : Nat}
    (hi : i ≤ t.chars.size) (h : t.spells folded codes i = true) :
    i + codes.length ≤ t.chars.size := by
  induction codes generalizing i with
  | nil => exact hi
  | cons code codes ih =>
    simp only [Subject.spells, Bool.and_eq_true] at h
    have hrest := ih (lt_of_any h.1) h.2
    simp only [List.length_cons]
    omega

private theorem behindText?_le {t : Subject} {back folded : Bool} {codes : List Nat}
    {pos pos' : Nat} (hs : pos ≤ t.chars.size)
    (h : t.behindText? back folded codes pos = some pos') : pos' ≤ t.chars.size := by
  unfold Subject.behindText? at h
  split at h
  · split at h
    · cases h
      omega
    · cases h
  · split at h
    · next ha =>
      cases h
      exact spells_le hs ha
    · cases h

/-! ### Repetitions of one character -/

private theorem runLength_le (t : Subject) (back : Bool) (p : Char → Bool)
    (fuel pos count : Nat) : t.runLength back p fuel pos count ≤ count + fuel := by
  induction fuel generalizing pos count with
  | zero => exact Nat.le_refl _
  | succ fuel ih =>
    unfold Subject.runLength
    split
    · omega
    · next pos' _ => exact Nat.le_trans (ih pos' (count + 1)) (by omega)

private theorem takeMost_within {t : Subject} {s : Progress} {back : Bool}
    {next : Progress → Option Progress} {least extra : Nat} {r : Progress}
    (hs : moveBy back s.pos (least + extra) ≤ t.chars.size)
    (hl : ∀ k ≤ extra, moveBy back s.pos (least + k) ≤ t.chars.size)
    (h : s.takeMost back next least extra = some r) :
    ∃ s', s'.pos ≤ t.chars.size ∧ next s' = some r := by
  induction extra with
  | zero => exact ⟨_, hs, h⟩
  | succ extra ih =>
    unfold Progress.takeMost at h
    split at h
    · next r' hr =>
      cases h
      exact ⟨_, hs, hr⟩
    · exact ih (hl extra (Nat.le_succ _)) (fun k hk ↦ hl k (Nat.le_succ_of_le hk)) h

private theorem takeFewest_within {t : Subject} {back : Bool} {p : Char → Bool}
    {next : Progress → Option Progress} {extra : Nat} {s r : Progress}
    (hs : s.pos ≤ t.chars.size)
    (h : Progress.takeFewest t back p next extra s = some r) :
    ∃ s', s'.pos ≤ t.chars.size ∧ next s' = some r := by
  induction extra generalizing s with
  | zero => exact ⟨s, hs, h⟩
  | succ extra ih =>
    unfold Progress.takeFewest at h
    split at h
    · next r' hr =>
      cases h
      exact ⟨s, hs, hr⟩
    · split at h
      · cases h
      · next pos hpos => exact ih (behindChar?_le hs hpos) h

private theorem moveBy_le {t : Subject} {back : Bool} {pos count : Nat}
    (hs : pos ≤ t.chars.size)
    (hc : count ≤ if back then pos else t.chars.size - pos) :
    moveBy back pos count ≤ t.chars.size := by
  cases back <;> simp only [moveBy, Bool.false_eq_true, ite_false, ite_true] at hc ⊢ <;> omega

private theorem runChars_within (t : Subject) (back : Bool) (times : Repeat)
    (p : Char → Bool) : StaysWithin t (fun s next ↦ s.runChars t back times p next) := by
  intro s next r hs h
  simp only [Progress.runChars] at h
  generalize hroom : (if back then s.pos else t.chars.size - s.pos) = room at h
  split at h
  · cases h
  · next hleast =>
    split at h
    · split at h
      · cases h
      · exact takeFewest_within (moveBy_le hs (by omega)) h
    · split at h
      · cases h
      · next hfound =>
        have hrun := runLength_le t back p (min room times.mostCount) s.pos 0
        exact takeMost_within (moveBy_le hs (by omega))
          (fun k hk ↦ moveBy_le hs (by omega)) h

/-! ### Repetitions of anything -/

private theorem orTry_eq_some {α : Type} {first : Option α} {second : Unit → Option α} {a : α}
    (h : orTry first second = some a) : first = some a ∨ second () = some a := by
  cases first with
  | none => exact .inr h
  | some b => exact .inl h

private theorem greedy_within {t : Subject} {l : Loop} (hb : StaysWithin t l.body)
    {fuel : Nat} {most from? : Option Nat} {s r : Progress} (hs : s.pos ≤ t.chars.size)
    (h : l.greedy fuel most from? s = some r) :
    ∃ s', s'.pos ≤ t.chars.size ∧ l.next s' = some r := by
  induction fuel generalizing most from? s with
  | zero => cases h
  | succ fuel ih =>
    unfold Loop.greedy at h
    split at h
    · exact ⟨s, hs, h⟩
    · rcases orTry_eq_some h with h | h
      · obtain ⟨s', hs', h'⟩ := hb _ _ _ hs h
        exact ih hs' h'
      · exact ⟨s, hs, h⟩

private theorem lazy_within {t : Subject} {l : Loop} (hb : StaysWithin t l.body)
    {fuel : Nat} {most from? : Option Nat} {s r : Progress} (hs : s.pos ≤ t.chars.size)
    (h : l.lazy fuel most from? s = some r) :
    ∃ s', s'.pos ≤ t.chars.size ∧ l.next s' = some r := by
  induction fuel generalizing most from? s with
  | zero => cases h
  | succ fuel ih =>
    unfold Loop.lazy at h
    rcases orTry_eq_some h with h | h
    · exact ⟨s, hs, h⟩
    · split at h
      · cases h
      · obtain ⟨s', hs', h'⟩ := hb _ _ _ hs h
        exact ih hs' h'

private theorem atLeast_within {t : Subject} {l : Loop} (hb : StaysWithin t l.body)
    {choice : Option Nat → Progress → Option Progress} {least : Nat} {from? : Option Nat}
    {s r : Progress} (hs : s.pos ≤ t.chars.size)
    (h : l.atLeast choice least from? s = some r) :
    ∃ from' s', s'.pos ≤ t.chars.size ∧ choice from' s' = some r := by
  induction least generalizing from? s with
  | zero => exact ⟨from?, s, hs, h⟩
  | succ least ih =>
    obtain ⟨s', hs', h'⟩ := hb _ _ _ hs h
    exact ih hs' h'

private theorem loop_within {t : Subject}
    {body : Progress → (Progress → Option Progress) → Option Progress}
    (hb : StaysWithin t body) (times : Repeat) (fuel : Nat) :
    StaysWithin t (fun s next ↦ Loop.run ⟨body, next⟩ times fuel s) := by
  intro s next r hs h
  obtain ⟨from', s', hs', h'⟩ := atLeast_within (l := ⟨body, next⟩) hb hs h
  split at h'
  · exact lazy_within (l := ⟨body, next⟩) hb hs' h'
  · exact greedy_within (l := ⟨body, next⟩) hb hs' h'

/-! ### Trees -/

/-- Matching a tree stays in the text, in either direction. -/
theorem Node.run_within (t : Subject) (n : Node) (back : Bool) :
    StaysWithin t (n.run t back) := by
  induction n generalizing back with
  | empty => exact fun s next r hs h ↦ ⟨s, hs, h⟩
  | nothing => exact fun s next r hs h ↦ nomatch h
  | char test folded =>
    intro s next r hs h
    unfold Node.run at h
    split at h
    · cases h
    · next pos hpos => exact ⟨_, behindChar?_le hs hpos, h⟩
  | chars times test folded => exact runChars_within t back times _
  | text codes folded =>
    intro s next r hs h
    unfold Node.run at h
    split at h
    · cases h
    · next pos hpos => exact ⟨_, behindText?_le hs hpos, h⟩
  | anchor a =>
    intro s next r hs h
    unfold Node.run at h
    split at h
    · exact ⟨s, hs, h⟩
    · cases h
  | seq first second ih₁ ih₂ =>
    intro s next r hs h
    unfold Node.run at h
    split at h
    · obtain ⟨s', hs', h'⟩ := ih₂ _ _ _ _ hs h
      exact ih₁ _ _ _ _ hs' h'
    · obtain ⟨s', hs', h'⟩ := ih₁ _ _ _ _ hs h
      exact ih₂ _ _ _ _ hs' h'
  | alt first second ih₁ ih₂ =>
    intro s next r hs h
    rcases orTry_eq_some h with h | h
    · exact ih₁ _ _ _ _ hs h
    · exact ih₂ _ _ _ _ hs h
  | group index body ih =>
    intro s next r hs h
    obtain ⟨found, hf, h'⟩ := ih _ _ _ _ hs h
    refine ⟨_, ?_, h'⟩
    exact hf
  | reference index folded =>
    intro s next r hs h
    unfold Node.run at h
    split at h
    · cases h
    · split at h
      · cases h
      · next pos hpos => exact ⟨_, behindText?_le hs hpos, h⟩
  | look ahead negated body ih =>
    intro s next r hs h
    unfold Node.run at h
    split at h
    · split at h
      · cases h
      · next found _ _ => exact ⟨{ s with spans := found.spans }, hs, h⟩
    · split at h
      · exact ⟨s, hs, h⟩
      · cases h
  | loop times body ih => exact loop_within (ih back) times _
  | atomic body ih =>
    intro s next r hs h
    unfold Node.run at h
    split at h
    · next found hb =>
      obtain ⟨s', hs', h'⟩ := ih _ _ _ _ hs hb
      cases h'
      exact ⟨found, hs', h⟩
    · cases h
  | ifMatched index yes no ih₁ ih₂ =>
    intro s next r hs h
    unfold Node.run at h
    split at h
    · exact ih₁ _ _ _ _ hs h
    · exact ih₂ _ _ _ _ hs h
  | ifMatches condition yes no ih₁ ih₂ ih₃ =>
    intro s next r hs h
    unfold Node.run at h
    split at h
    · next found _ => exact ih₂ back { s with spans := found.spans } _ _ hs h
    · exact ih₃ _ _ _ _ hs h
  | balance index freed body ih => exact ih back

/-- A match of a steady pattern lies in the text, wherever the search starts. -/
theorem matchLength?_within (p : Pattern) (hp : p.program = none) (chars : Array Char)
    (origin n : Nat) (ho : origin ≤ chars.size)
    (h : p.matchLength? chars origin = .ok (some n)) : origin + n ≤ chars.size := by
  have length (start m : Nat) (hge : origin ≤ start) (hle : start ≤ chars.size)
      (hm : p.lengthAt? chars origin start = some m) : origin + m ≤ chars.size := by
    obtain ⟨r, hr, rfl⟩ := Option.map_eq_some_iff.mp hm
    obtain ⟨s', hs', h'⟩ := p.node.run_within ⟨chars, origin⟩ false _ _ _ hle hr
    cases h'
    simp only at hs'
    omega
  simp only [matchLength?, hp, Except.ok.injEq, steadyLength?] at h
  split at h
  · exact length origin n (Nat.le_refl _) ho h
  · obtain ⟨start, hmem, hs⟩ := List.exists_of_findSome?_eq_some h
    have hplace : start ∈ List.range' origin (chars.size + 1 - origin) := by
      split at hmem
      · exact hmem
      · exact (List.mem_filter.mp hmem).1
    obtain ⟨hge, hlt⟩ := List.mem_range'_1.mp hplace
    exact length start n hge (by omega) hs

end CodeViewer.Pattern
