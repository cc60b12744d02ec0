import CodeViewer.Proofs.Grammar.RuleSet
import CodeViewer.Proofs.Text.Decimal
import Mathlib.Data.Finset.Sort

/-!
# Keys of modes

A mode is told from others by a text, in which its number stands in front of the numbers of the
rules that apply in it, in ascending order. The text can be read in one way only, so that modes of
one key are the same mode with the same rules, in whatever order.
-/

namespace CodeViewer

open CompiledRule

/-- A number and numbers between brackets. -/
def printedKey (id : Nat) (ids : List Nat) : String :=
  toString id ++ " [" ++ " ".intercalate (ids.map toString) ++ "]"

/-- The key of a mode in which some rules apply. -/
def modeKey (id : Nat) (visible : List CompiledRule) : String :=
  printedKey id (visible.map (·.id)).mergeSort

example : printedKey 3 [1, 12] = "3 [1 12]" := by decide +kernel

/-! ### Reading a key -/

private theorem toDigits_injective : Function.Injective (Nat.toDigits 10) := by
  intro m n h
  rw [← Nat.ofDigitChars_ten_toDigits (n := m), h, Nat.ofDigitChars_ten_toDigits]

private theorem splitOn_spaced {ns : List Nat} (hne : ns ≠ []) :
    ([' '].intercalate (ns.map (Nat.toDigits 10))).splitOn ' ' = ns.map (Nat.toDigits 10) := by
  apply List.splitOn_intercalate
  · intro digits hdigits
    obtain ⟨n, -, rfl⟩ := List.mem_map.mp hdigits
    exact Text.not_mem_toDigits (by decide) n
  · simpa using hne

private theorem spaced_eq_nil_iff {ns : List Nat} :
    [' '].intercalate (ns.map (Nat.toDigits 10)) = [] ↔ ns = [] := by
  constructor
  · intro h
    by_contra hne
    have hsplit := splitOn_spaced hne
    rw [h, List.splitOn_nil] at hsplit
    obtain ⟨n, rest, rfl⟩ := List.exists_cons_of_ne_nil hne
    simp only [List.map_cons, List.cons.injEq] at hsplit
    exact Nat.toDigits_ne_nil hsplit.1.symm
  · rintro rfl
    rfl

private theorem spaced_injective :
    Function.Injective fun ns : List Nat ↦ [' '].intercalate (ns.map (Nat.toDigits 10)) := by
  intro ms ns h
  by_cases hms : ms = []
  · subst hms
    exact (spaced_eq_nil_iff.mp h.symm).symm
  · have hns : ns ≠ [] := fun hns ↦ hms (spaced_eq_nil_iff.mp (h.trans (spaced_eq_nil_iff.mpr hns)))
    apply toDigits_injective.list_map
    rw [← splitOn_spaced hms, ← splitOn_spaced hns]
    exact congrArg (·.splitOn ' ') h

private theorem toList_printedKey (id : Nat) (ids : List Nat) :
    (printedKey id ids).toList = Nat.toDigits 10 id ++
      ' ' :: '[' :: ([' '].intercalate (ids.map (Nat.toDigits 10)) ++ [']']) := by
  simp [printedKey, Function.comp_def]

/-- A printed key can be read in one way only. -/
theorem printedKey_inj {id id' : Nat} {ids ids' : List Nat} :
    printedKey id ids = printedKey id' ids' ↔ id = id' ∧ ids = ids' := by
  constructor
  · intro h
    have htext := congrArg String.toList h
    rw [toList_printedKey, toList_printedKey] at htext
    -- The number in front ends at the first blank.
    have hfront (n : Nat) (rest : List Char) :
        (Nat.toDigits 10 n ++ ' ' :: rest).splitOn ' ' = Nat.toDigits 10 n :: rest.splitOn ' ' :=
      List.splitOn_append_cons_self_of_not_mem (Text.not_mem_toDigits (by decide) n) rest
    have hsplit := congrArg (·.splitOn ' ') htext
    simp only [hfront, List.cons.injEq] at hsplit
    obtain rfl := toDigits_injective hsplit.1
    have hrest := (List.cons.inj (List.append_cancel_left htext)).2
    have hids := List.append_cancel_right (List.cons.inj hrest).2
    exact ⟨rfl, spaced_injective hids⟩
  · rintro ⟨rfl, rfl⟩
    rfl

/-! ### Keys of modes -/

variable {rules xs ys : List CompiledRule} {id id' : Nat}

private theorem mergeSort_eq_iff {ms ns : List Nat} :
    ms.mergeSort = ns.mergeSort ↔ ms.Perm ns := by
  have hperm (ns : List Nat) : ns.mergeSort.Perm ns := List.mergeSort_perm ns _
  have hsorted (ns : List Nat) : ns.mergeSort.Pairwise (· ≤ ·) := List.pairwise_mergeSort' _ ns
  constructor
  · intro h
    exact (hperm ms).symm.trans (h ▸ hperm ns)
  · intro h
    exact (((hperm ms).trans h).trans (hperm ns).symm).eq_of_pairwise' (hsorted ms) (hsorted ns)

/-- Modes have the same key exactly if they are one mode with the same rules. -/
theorem modeKey_eq_iff (hn : Numbered rules) (hxs : Within rules xs) (hys : Within rules ys) :
    modeKey id (uniqueRules xs) = modeKey id' (uniqueRules ys) ↔ id = id' ∧ SameRules xs ys := by
  have hx := sameRules_uniqueRules hn hxs
  have hy := sameRules_uniqueRules hn hys
  rw [modeKey, modeKey, printedKey_inj, mergeSort_eq_iff]
  refine and_congr_right fun _ ↦ ?_
  constructor
  · intro hperm
    have hunique : SameRules (uniqueRules xs) (uniqueRules ys) := by
      apply sameRules_of_ids hn (hx.within.mpr hxs) (hy.within.mpr hys)
      intro i
      rw [← List.mem_map, ← List.mem_map, hperm.mem_iff]
    intro r
    rw [← hx r, hunique r, hy r]
  · intro hsame
    apply List.Perm.map
    refine (List.perm_ext_iff_of_nodup (nodup_uniqueRules hn hxs) (nodup_uniqueRules hn hys)).mpr ?_
    intro r
    rw [hx r, hsame r, hy r]

/-! ### The keys of a forest -/

/-- The keys of the modes of a forest, in which rules of the forest apply. -/
def forestKeys (rules : List CompiledRule) : Finset String :=
  (modeNumbers rules ×ˢ (ruleNumbers rules).powerset).image
    fun p ↦ printedKey p.1 (p.2.sort (· ≤ ·))

private theorem sort_toFinset {ns : List Nat} (h : ns.Nodup) :
    ns.toFinset.sort (· ≤ ·) = ns.mergeSort := by
  have hperm : (ns.toFinset.sort (· ≤ ·)).Perm ns :=
    (Finset.sort_perm_toList _ _).trans (List.toFinset_toList h)
  have hsorted : (ns.toFinset.sort (· ≤ ·)).Pairwise (· ≤ ·) := Finset.pairwise_sort _ _
  apply (hperm.trans (List.mergeSort_perm ns _).symm).eq_of_pairwise' hsorted
  exact List.pairwise_mergeSort' _ ns

/-- The key of a mode of a forest is one of them. -/
theorem mem_forestKeys (hn : Numbered rules) (h : IsEntrance rules id xs) :
    modeKey id (uniqueRules xs) ∈ forestKeys rules := by
  have hwithin := (sameRules_uniqueRules hn h.within).within.mpr h.within
  have hnodup : ((uniqueRules xs).map (·.id)).Nodup := by
    apply (nodup_uniqueRules hn h.within).map_on
    intro r hr s hs
    exact hn r (hwithin r hr) s (hwithin s hs)
  refine Finset.mem_image.mpr ⟨(id, ((uniqueRules xs).map (·.id)).toFinset), ?_, ?_⟩
  · exact Finset.mem_product.mpr ⟨h.mem_modeNumbers, Finset.mem_powerset.mpr hwithin.ids_subset⟩
  · rw [modeKey, sort_toFinset hnodup]

/-- There are no more keys than modes times sets of rules. -/
theorem card_forestKeys_le (rules : List CompiledRule) :
    (forestKeys rules).card ≤ ((flattenAll rules).length + 1) * 2 ^ (flattenAll rules).length :=
  calc (forestKeys rules).card
    _ ≤ (modeNumbers rules ×ˢ (ruleNumbers rules).powerset).card := Finset.card_image_le
    _ ≤ _ := card_modes_with_rules_le rules

end CodeViewer
