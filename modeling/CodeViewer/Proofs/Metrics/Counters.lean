import CodeViewer.Metrics.Counters

/-!
# What was counted

A tally answers for each key how often it was counted. Counting a key changes the answer for no
other one, so that tokens and scans of one grammar leave those of all others alone.
-/

namespace CodeViewer

namespace Tally

variable {κ : Type} [BEq κ]

/-- At first nothing is counted. -/
theorem count_empty (key : κ) : (empty : Tally κ).count key = 0 := rfl

variable [LawfulBEq κ]

private theorem lookup_addTo (key key' : κ) (n : Nat) (entries : List (κ × Nat)) :
    (addTo key n entries).lookup key' =
      if key' == key then some ((entries.lookup key).getD 0 + n) else entries.lookup key' := by
  induction entries with
  | nil =>
    rw [addTo, List.lookup_cons]
    cases hkey : key' == key with
    | true => simp
    | false => rfl
  | cons entry rest ih =>
    obtain ⟨k, m⟩ := entry
    rw [addTo]
    by_cases hk : key = k
    · -- The count of the key stands here, and only its own is looked up here.
      subst hk
      simp only [beq_self_eq_true, if_true, List.lookup_cons]
      cases key' == key with
      | true => rfl
      | false => rfl
    · have hne : (key == k) = false := beq_eq_false_iff_ne.mpr hk
      simp only [hne, Bool.false_eq_true, if_false, List.lookup_cons, ih]
      by_cases hk' : key' = k
      · subst hk'
        rw [beq_self_eq_true, beq_eq_false_iff_ne.mpr (Ne.symm hk)]
        rfl
      · rw [beq_eq_false_iff_ne.mpr hk']

/-- Counting a key adds to its own count only. -/
theorem count_add (t : Tally κ) (key key' : κ) (n : Nat) :
    (t.add key n).count key' = t.count key' + if key' == key then n else 0 := by
  unfold add
  split
  · next hn => simp [hn]
  · unfold count
    rw [lookup_addTo]
    by_cases hkey : key' = key
    · subst hkey
      simp
    · rw [beq_eq_false_iff_ne.mpr hkey]
      rfl

end Tally

namespace Counters

/-- Counting tokens adds to the counts of their classes in their grammar. -/
theorem count_countTokens (c : Counters) (grammar name : String) (cls : Class)
    (tokens : List Token) :
    (c.countTokens grammar tokens).tokens.count (cls, name) = c.tokens.count (cls, name) +
      if name == grammar then tokens.countP (·.cls == cls) else 0 := by
  induction tokens generalizing c with
  | nil => simp [countTokens]
  | cons t tokens ih =>
    have hrest := ih (c.addTokens grammar t.cls 1)
    rw [countTokens, List.foldl_cons, ← countTokens, hrest, addTokens, Tally.count_add,
      List.countP_cons]
    by_cases hname : name = grammar
    · by_cases hcls : t.cls = cls
      · simp [hname, hcls]
        omega
      · simp [hname, hcls, Ne.symm hcls]
    · simp [hname]

/-- Counting tokens leaves the counts of scans as they are. -/
theorem scans_countTokens (c : Counters) (grammar : String) (tokens : List Token) :
    (c.countTokens grammar tokens).scans = c.scans := by
  induction tokens generalizing c with
  | nil => rfl
  | cons t tokens ih => exact ih (c.addTokens grammar t.cls 1)

/-- Counting a scan adds to the scans of its grammar. -/
theorem count_countScan (c : Counters) (grammar name : String) (failure : Option Failure) :
    (c.countScan grammar failure).scans.count name =
      c.scans.count name + if name == grammar then 1 else 0 := by
  cases failure with
  | none => exact Tally.count_add _ _ _ _
  | some f => exact Tally.count_add _ _ _ _

/-- Counting a scan leaves the counts of tokens as they are. -/
theorem tokens_countScan (c : Counters) (grammar : String) (failure : Option Failure) :
    (c.countScan grammar failure).tokens = c.tokens := by
  cases failure with
  | none => rfl
  | some f => rfl

end Counters

end CodeViewer
