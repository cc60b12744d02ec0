import CodeViewer.Proofs.Grammar.Forest
import Mathlib.Data.Finset.Powerset
import Mathlib.Data.Finset.Prod
import Mathlib.Data.Nat.Bitwise

/-!
# Rules that apply together

Whether rules contradict each other depends on which rules there are, not on their order or on
how often one is named. Within a forest whose rules are numbered, the set of the numbers stands
for the rules, and there are finitely many combinations of a mode and such a set.
-/

namespace CodeViewer

open CompiledRule

/-- Rules that begin with the same pattern are of one class. -/
def Agree (rs : List CompiledRule) : Prop :=
  ∀ a ∈ rs, ∀ b ∈ rs, a.head.source = b.head.source → a.head.cls = b.head.cls

/-- Two lists name the same rules. -/
def SameRules (xs ys : List CompiledRule) : Prop := ∀ r, r ∈ xs ↔ r ∈ ys

variable {rules xs ys : List CompiledRule}

/-- Only the rules named decide whether they agree. -/
theorem SameRules.agree (h : SameRules xs ys) : Agree xs ↔ Agree ys := by
  simp only [Agree, h _]

/-- Only the rules named belong to a forest or do not. -/
theorem SameRules.within (h : SameRules xs ys) : Within rules xs ↔ Within rules ys := by
  simp only [Within, h _]

/-- A mode that is entered where the same rules apply has the same rules. -/
theorem SameRules.innerRules (h : SameRules xs ys) (r : CompiledRule) :
    SameRules (innerRules r xs) (innerRules r ys) := by
  intro s
  unfold CodeViewer.innerRules
  split
  · rfl
  · simp only [List.mem_append, h s]

/-! ### The first of each rule -/

private theorem mem_firstOccurrences (hn : Numbered rules) {seen : List Nat}
    (hxs : Within rules xs) {r : CompiledRule} :
    r ∈ firstOccurrences seen xs ↔ r ∈ xs ∧ r.id ∉ seen := by
  induction xs generalizing seen with
  | nil => simp [firstOccurrences]
  | cons x xs ih =>
    have htail : Within rules xs := fun s hs ↦ hxs s (List.mem_cons_of_mem x hs)
    simp only [firstOccurrences, List.contains_iff_mem]
    split
    · next hx =>
      rw [ih htail, List.mem_cons]
      constructor
      · intro h
        exact ⟨.inr h.1, h.2⟩
      · rintro ⟨rfl | h, hr⟩
        · exact absurd hx hr
        · exact ⟨h, hr⟩
    · next hx =>
      rw [List.mem_cons, List.mem_cons, ih htail, List.mem_cons, not_or]
      constructor
      · rintro (rfl | h)
        · exact ⟨.inl rfl, hx⟩
        · exact ⟨.inr h.1, h.2.2⟩
      · rintro ⟨rfl | h, hr⟩
        · exact .inl rfl
        · by_cases hid : r.id = x.id
          · exact .inl (hn r (htail r h) x (hxs x List.mem_cons_self) hid)
          · exact .inr ⟨h, hid, hr⟩

private theorem nodup_firstOccurrences (hn : Numbered rules) {seen : List Nat}
    (hxs : Within rules xs) : (firstOccurrences seen xs).Nodup := by
  induction xs generalizing seen with
  | nil => simp [firstOccurrences]
  | cons x xs ih =>
    have htail : Within rules xs := fun s hs ↦ hxs s (List.mem_cons_of_mem x hs)
    simp only [firstOccurrences]
    split
    · exact ih htail
    · refine List.nodup_cons.mpr ⟨fun hx ↦ ?_, ih htail⟩
      exact ((mem_firstOccurrences hn htail).mp hx).2 List.mem_cons_self

/-- Keeping the first of each rule keeps the rules. -/
theorem sameRules_uniqueRules (hn : Numbered rules) (hxs : Within rules xs) :
    SameRules (uniqueRules xs) xs := by
  intro r
  rw [uniqueRules, mem_firstOccurrences hn hxs]
  simp

/-- Each rule is kept once. -/
theorem nodup_uniqueRules (hn : Numbered rules) (hxs : Within rules xs) : (uniqueRules xs).Nodup :=
  nodup_firstOccurrences hn hxs

/-- There are at most as many different rules as the forest has. -/
theorem length_uniqueRules_le (hn : Numbered rules) (hxs : Within rules xs) :
    (uniqueRules xs).length ≤ (flattenAll rules).length := by
  have hsubset : uniqueRules xs ⊆ flattenAll rules :=
    fun r hr ↦ hxs r ((sameRules_uniqueRules hn hxs r).mp hr)
  exact ((nodup_uniqueRules hn hxs).subperm hsubset).length_le

private theorem firstOccurrences_firstOccurrences {seen seen' : List Nat} (h : seen' ⊆ seen) :
    firstOccurrences seen (firstOccurrences seen' xs) = firstOccurrences seen xs := by
  induction xs generalizing seen seen' with
  | nil => rfl
  | cons x xs ih =>
    rw [firstOccurrences, firstOccurrences]
    simp only [List.contains_iff_mem]
    by_cases hx : x.id ∈ seen
    · by_cases hx' : x.id ∈ seen'
      · rw [if_pos hx', if_pos hx, ih h]
      · have hcons : x.id :: seen' ⊆ seen := List.cons_subset.mpr ⟨hx, h⟩
        rw [if_neg hx', if_pos hx, firstOccurrences, List.contains_iff_mem.mpr hx, if_pos rfl,
          ih hcons]
    · have hx' : x.id ∉ seen' := fun hmem ↦ hx (h hmem)
      have hcontains : seen.contains x.id = false := by simpa using hx
      rw [if_neg hx', if_neg hx, firstOccurrences, hcontains, ih (List.cons_subset_cons x.id h)]
      rfl

private theorem firstOccurrences_append_firstOccurrences {seen seen' : List Nat}
    (h : seen' ⊆ seen) :
    firstOccurrences seen (ys ++ firstOccurrences seen' xs) = firstOccurrences seen (ys ++ xs) := by
  induction ys generalizing seen with
  | nil => exact firstOccurrences_firstOccurrences h
  | cons y ys ih =>
    simp only [List.cons_append, firstOccurrences]
    rw [ih h, ih (List.subset_cons_of_subset y.id h)]

/-- Rules that are kept once are so again. -/
theorem uniqueRules_uniqueRules (xs : List CompiledRule) :
    uniqueRules (uniqueRules xs) = uniqueRules xs :=
  firstOccurrences_firstOccurrences (List.Subset.refl [])

/-- In a mode the first of each rule is the same whether repeated rules apply around it or not. -/
theorem uniqueRules_innerRules (r : CompiledRule) (xs : List CompiledRule) :
    uniqueRules (innerRules r (uniqueRules xs)) = uniqueRules (innerRules r xs) := by
  unfold innerRules
  split
  · rfl
  · exact firstOccurrences_append_firstOccurrences (List.Subset.refl [])

/-! ### Contradictions -/

private theorem agree_cons {r : CompiledRule} (hxs : Agree xs)
    (hr : ∀ x ∈ xs, x.head.source = r.head.source → x.head.cls = r.head.cls) :
    Agree (r :: xs) := by
  intro a ha b hb heq
  rw [List.mem_cons] at ha hb
  by_cases har : a = r
  · subst har
    rcases hb with rfl | hb
    · rfl
    · exact (hr b hb heq.symm).symm
  · have hax : a ∈ xs := ha.resolve_left har
    rcases hb with rfl | hb
    · exact hr a hax heq
    · exact hxs a hax b hb heq

private theorem contradiction?_none_iff {passed : List CompiledRule} (hp : Agree passed) :
    contradiction? passed xs = none ↔ Agree (xs ++ passed) := by
  induction xs generalizing passed with
  | nil => simp [contradiction?, hp]
  | cons r rs ih =>
    -- Going on is right as soon as `r` agrees with what has been passed.
    have hgoOn (hr : ∀ p ∈ passed, p.head.source = r.head.source → p.head.cls = r.head.cls) :
        contradiction? (r :: passed) rs = none ↔ Agree (r :: rs ++ passed) := by
      have hsame : SameRules (rs ++ r :: passed) (r :: rs ++ passed) := by
        intro s
        simp only [List.mem_append, List.mem_cons, List.cons_append]
        exact or_left_comm
      rw [← hsame.agree]
      exact ih (agree_cons hp hr)
    rw [contradiction?]
    split
    · next p hfind =>
      have hmem : p ∈ passed := List.mem_of_find?_eq_some hfind
      have hsource : p.head.source = r.head.source := by
        simpa using List.find?_some hfind
      split
      · next hcls =>
        refine hgoOn fun q hq heq ↦ ?_
        rw [hp q hq p hmem (heq.trans hsource.symm)]
        exact eq_of_beq hcls
      · next hcls =>
        constructor
        · intro h
          cases h
        · intro h
          refine absurd (h p ?_ r ?_ hsource) fun heq ↦ hcls (beq_iff_eq.mpr heq)
          · simp [hmem]
          · simp
    · next hfind =>
      refine hgoOn fun q hq heq ↦ ?_
      exact absurd (beq_iff_eq.mpr heq) (List.find?_eq_none.mp hfind q hq)

/-- No contradiction is found exactly if the rules agree. -/
theorem contradiction?_eq_none_iff : contradiction? [] xs = none ↔ Agree xs := by
  have hnil : Agree [] := fun _ ha ↦ absurd ha List.not_mem_nil
  rw [contradiction?_none_iff hnil, List.append_nil]

/-! ### Sets of numbers -/

private theorem testBit_foldl_ids (bits i : Nat) :
    (xs.foldl (fun bits r ↦ bits ||| 1 <<< r.id) bits).testBit i = true ↔
      bits.testBit i = true ∨ ∃ r ∈ xs, r.id = i := by
  induction xs generalizing bits with
  | nil => simp
  | cons x xs ih =>
    rw [List.foldl_cons, ih, Nat.testBit_lor, Nat.one_shiftLeft, Nat.testBit_two_pow]
    simp only [Bool.or_eq_true, decide_eq_true_eq, List.mem_cons, exists_eq_or_imp, or_assoc]

/-- A number is in the set exactly if a rule has it. -/
theorem testBit_ruleSet {i : Nat} : (ruleSet xs).testBit i = true ↔ ∃ r ∈ xs, r.id = i := by
  rw [ruleSet, testBit_foldl_ids]
  simp

/-- The same rules have the same set of numbers. -/
theorem SameRules.ruleSet_eq (h : SameRules xs ys) : ruleSet xs = ruleSet ys := by
  apply Nat.eq_of_testBit_eq
  intro i
  rw [Bool.eq_iff_iff, testBit_ruleSet, testBit_ruleSet]
  simp only [h _]

private theorem mem_of_ids (hn : Numbered rules) (hxs : Within rules xs) (hys : Within rules ys)
    (h : ∀ i, (∃ r ∈ xs, r.id = i) ↔ ∃ r ∈ ys, r.id = i) {r : CompiledRule} (hr : r ∈ xs) :
    r ∈ ys := by
  obtain ⟨s, hs, hid⟩ := (h r.id).mp ⟨r, hr, rfl⟩
  rw [← hn s (hys s hs) r (hxs r hr) hid]
  exact hs

/-- Rules with the same numbers are the same. -/
theorem sameRules_of_ids (hn : Numbered rules) (hxs : Within rules xs) (hys : Within rules ys)
    (h : ∀ i, (∃ r ∈ xs, r.id = i) ↔ ∃ r ∈ ys, r.id = i) : SameRules xs ys :=
  fun _ ↦ ⟨mem_of_ids hn hxs hys h, mem_of_ids hn hys hxs fun i ↦ (h i).symm⟩

/-- The set of the numbers stands for the rules. -/
theorem sameRules_of_ruleSet_eq (hn : Numbered rules) (hxs : Within rules xs)
    (hys : Within rules ys) (h : ruleSet xs = ruleSet ys) : SameRules xs ys := by
  apply sameRules_of_ids hn hxs hys
  intro i
  rw [← testBit_ruleSet, h, testBit_ruleSet]

/-! ### Combinations -/

/-- A number of a mode, zero for the top level, with rules that apply in it. -/
structure IsEntrance (rules : List CompiledRule) (id : Nat) (visible : List CompiledRule) :
    Prop where
  mode : id = 0 ∨ ∃ r ∈ flattenAll rules, r.id = id
  within : Within rules visible

/-- The combination of a mode and a set of rules is one of a forest. -/
def IsCombination (rules : List CompiledRule) (key : Nat × Nat) : Prop :=
  ∃ visible, IsEntrance rules key.1 visible ∧ ruleSet visible = key.2

/-- The numbers of the rules of a forest. -/
def ruleNumbers (rules : List CompiledRule) : Finset Nat :=
  ((flattenAll rules).map (·.id)).toFinset

/-- The numbers of the rules of a forest with that of the top level. -/
def modeNumbers (rules : List CompiledRule) : Finset Nat := insert 0 (ruleNumbers rules)

/-- The rules that apply together have numbers of the forest. -/
theorem Within.ids_subset (h : Within rules xs) :
    (xs.map (·.id)).toFinset ⊆ ruleNumbers rules := by
  intro i hi
  obtain ⟨r, hr, rfl⟩ := List.mem_map.mp (List.mem_toFinset.mp hi)
  exact List.mem_toFinset.mpr (List.mem_map_of_mem (h r hr))

/-- The number of a mode is one of the forest. -/
theorem IsEntrance.mem_modeNumbers {id : Nat} (h : IsEntrance rules id xs) :
    id ∈ modeNumbers rules := by
  rcases h.mode with hzero | ⟨r, hr, hid⟩
  · exact Finset.mem_insert.mpr (.inl hzero)
  · refine Finset.mem_insert_of_mem ?_
    exact List.mem_toFinset.mpr (hid ▸ List.mem_map_of_mem hr)

/-- There are no more pairs of a mode and a set of rules than modes times sets of rules. -/
theorem card_modes_with_rules_le (rules : List CompiledRule) :
    (modeNumbers rules ×ˢ (ruleNumbers rules).powerset).card ≤
      ((flattenAll rules).length + 1) * 2 ^ (flattenAll rules).length := by
  have hids : (ruleNumbers rules).card ≤ (flattenAll rules).length := by
    simpa [ruleNumbers] using ((flattenAll rules).map (·.id)).toFinset_card_le
  have hmodes := Finset.card_insert_le 0 (ruleNumbers rules)
  rw [Finset.card_product, Finset.card_powerset, modeNumbers]
  exact Nat.mul_le_mul (by omega) (Nat.pow_le_pow_right (by omega) hids)

private theorem bits_eq_of_filter_eq {ids : Finset Nat} {a b : Nat}
    (ha : ∀ i, a.testBit i = true → i ∈ ids) (hb : ∀ i, b.testBit i = true → i ∈ ids)
    (h : ids.filter (a.testBit ·) = ids.filter (b.testBit ·)) : a = b := by
  apply Nat.eq_of_testBit_eq
  intro i
  have hiff := Finset.ext_iff.mp h i
  rw [Finset.mem_filter, Finset.mem_filter] at hiff
  rw [Bool.eq_iff_iff]
  constructor
  · intro hbit
    exact (hiff.mp ⟨ha i hbit, hbit⟩).2
  · intro hbit
    exact (hiff.mpr ⟨hb i hbit, hbit⟩).2

/-- Different combinations are no more than modes times sets of rules. -/
theorem combinations_length_le {keys : List (Nat × Nat)} (hnodup : keys.Nodup)
    (h : ∀ key ∈ keys, IsCombination rules key) :
    keys.length ≤ ((flattenAll rules).length + 1) * 2 ^ (flattenAll rules).length := by
  have hbits : ∀ key ∈ keys.toFinset, ∀ i, key.2.testBit i = true → i ∈ ruleNumbers rules := by
    intro key hkey i hbit
    obtain ⟨visible, hentrance, hset⟩ := h key (List.mem_toFinset.mp hkey)
    rw [← hset] at hbit
    obtain ⟨r, hr, rfl⟩ := testBit_ruleSet.mp hbit
    exact hentrance.within.ids_subset (List.mem_toFinset.mpr (List.mem_map_of_mem hr))
  let pair : Nat × Nat → Nat × Finset Nat :=
    fun key ↦ (key.1, (ruleNumbers rules).filter (key.2.testBit ·))
  have hmaps : ∀ key ∈ keys.toFinset,
      pair key ∈ modeNumbers rules ×ˢ (ruleNumbers rules).powerset := by
    intro key hkey
    obtain ⟨visible, hentrance, -⟩ := h key (List.mem_toFinset.mp hkey)
    refine Finset.mem_product.mpr ⟨hentrance.mem_modeNumbers, ?_⟩
    exact Finset.mem_powerset.mpr (Finset.filter_subset _ _)
  have hinj : Set.InjOn pair keys.toFinset := by
    intro a ha b hb heq
    obtain ⟨hid, hfilter⟩ := Prod.mk.inj heq
    exact Prod.ext hid (bits_eq_of_filter_eq (hbits a ha) (hbits b hb) hfilter)
  calc keys.length = keys.toFinset.card := (List.toFinset_card_of_nodup hnodup).symm
    _ ≤ (modeNumbers rules ×ˢ (ruleNumbers rules).powerset).card :=
      Finset.card_le_card_of_injOn pair hmaps hinj
    _ ≤ _ := card_modes_with_rules_le rules

end CodeViewer
