import CodeViewer.Highlight.Highlighter

/-!
# Looking up matches

The matches of a line are in order and do not overlap. The one that covers a column can therefore be
found by bisection, or by a cursor that only moves forward.
-/

namespace CodeViewer

/-! ### Bisection -/

/-- Bisection finds the first index at which a predicate holds, if it holds from there on. -/
theorem bisectFrom_spec {p : Nat → Bool} {fuel lo hi : Nat} (hle : lo ≤ hi) (hf : hi ≤ lo + fuel)
    (hmono : ∀ i j, i ≤ j → j < hi → p i → p j) :
    bisectFrom p fuel lo hi ≤ hi ∧ (∀ i, lo ≤ i → i < bisectFrom p fuel lo hi → ¬ p i) ∧
      (bisectFrom p fuel lo hi < hi → p (bisectFrom p fuel lo hi)) := by
  induction fuel generalizing lo hi with
  | zero =>
    obtain rfl : lo = hi := by omega
    exact ⟨Nat.le_refl _, fun i hlo hlt ↦ absurd hlo (Nat.not_le.mpr hlt),
      fun hlt ↦ absurd hlt (Nat.lt_irrefl _)⟩
  | succ fuel ih =>
    unfold bisectFrom
    split
    · next hlt =>
      have hmid : (lo + hi) / 2 < hi := by omega
      simp only
      split
      · next hp =>
        obtain ⟨hub, hbefore, hat⟩ := ih (show lo ≤ (lo + hi) / 2 by omega) (by omega)
          (fun i j hij hj ↦ hmono i j hij (by omega))
        refine ⟨by omega, hbefore, fun hlt ↦ ?_⟩
        rcases Nat.eq_or_lt_of_le hub with he | hlt
        · rw [he]
          exact hp
        · exact hat hlt
      · next hp =>
        obtain ⟨hub, hbefore, hat⟩ := ih (show (lo + hi) / 2 + 1 ≤ hi by omega) (by omega)
          hmono
        refine ⟨hub, fun i hlo hlt hpi ↦ ?_, hat⟩
        rcases Nat.lt_or_ge ((lo + hi) / 2) i with hgt | hge
        · exact hbefore i hgt hlt hpi
        · exact hp (hmono i _ hge hmid hpi)
    · next hge =>
      exact ⟨hle, fun i hlo hlt ↦ absurd hlo (Nat.not_le.mpr hlt),
        fun hlt ↦ absurd hlt hge⟩

/-- Bisection finds the first element that satisfies a predicate, if all elements behind it do. -/
theorem bisectFind?_eq_find? {α : Type} {xs : Array α} {p : α → Bool}
    (hmono : xs.toList.Pairwise fun a b ↦ p a → p b) : bisectFind? xs p = xs.toList.find? p := by
  have hlater (i j : Nat) (hij : i ≤ j) (hj : j < xs.size) (hi : xs[i]?.any p) :
      xs[j]?.any p := by
    rcases Nat.eq_or_lt_of_le hij with rfl | hlt
    · exact hi
    · have hle : i < xs.size := Nat.lt_trans hlt hj
      rw [Array.getElem?_eq_getElem hle] at hi
      rw [Array.getElem?_eq_getElem hj]
      exact List.pairwise_iff_getElem.mp hmono i j (by simpa) (by simpa) hlt hi
  obtain ⟨hub, hbefore, hat⟩ := bisectFrom_spec (Nat.zero_le _) (Nat.le_add_left _ _) hlater
  unfold bisectFind? bisect
  generalize bisectFrom _ _ _ _ = r at hub hbefore hat
  have hnone (i : Nat) (hi : i < xs.size) (hlt : i < r) : ¬ p xs[i] := by
    have h := hbefore i (Nat.zero_le _) hlt
    rwa [Array.getElem?_eq_getElem hi] at h
  rcases Nat.eq_or_lt_of_le hub with rfl | hlt
  · rw [Array.getElem?_eq_none (Nat.le_refl _)]
    symm
    rw [List.find?_eq_none]
    intro a ha
    obtain ⟨i, hi, rfl⟩ := List.mem_iff_getElem.mp ha
    exact hnone i (by simpa using hi) (by simpa using hi)
  · have hp := hat hlt
    rw [Array.getElem?_eq_getElem hlt] at hp ⊢
    symm
    rw [List.find?_eq_some_iff_getElem]
    exact ⟨hp, r, by simpa, by simp, fun j hj ↦ by
      simpa using hnone j (Nat.lt_trans hj hlt) hj⟩

/-! ### Matches in order -/

/-- Matches that stand on a line from left to right. -/
structure InOrder (ms : List Match) : Prop where
  nonempty : ∀ m ∈ ms, m.first ≤ m.last
  apart : ms.Pairwise fun m m' ↦ m.last < m'.first

/-- The first of some matches that does not end before a column, if it covers the column. -/
def covering (ms : List Match) (col : Nat) : Option Match :=
  (ms.find? (col ≤ ·.last)).filter (·.first ≤ col)

/-- A match is looked up by bisection. -/
theorem Highlighter.matchAt?_eq {h : Highlighter} {line : Int}
    (horder : InOrder (h.matchesOf line).toList) (col : Nat) :
    h.matchAt? line col = covering (h.matchesOf line).toList col := by
  have hmono : (h.matchesOf line).toList.Pairwise fun m m' ↦
      decide ((col : Int) ≤ m.last) → decide ((col : Int) ≤ m'.last) := by
    refine horder.apart.imp_of_mem fun {m m'} hm hm' hlt hcol ↦ ?_
    have hne := horder.nonempty m' hm'
    simp only [decide_eq_true_eq] at hcol ⊢
    omega
  unfold Highlighter.matchAt? covering
  rw [bisectFind?_eq_find? hmono]
  simp only [Int.ofNat_le]

/-- A cursor that skips the matches that end before a column points to the one that covers it. -/
theorem head?_dropWhile_eq_covering (ms : List Match) (col : Nat) :
    (ms.dropWhile (·.last < col)).head?.filter (·.first ≤ col) = covering ms col := by
  unfold covering
  congr 1
  induction ms with
  | nil => rfl
  | cons m ms ih =>
    by_cases h : m.last < col
    · simp [h, ih, Nat.not_le.mpr h]
    · simp [h, Nat.not_lt.mp h]

/-- The cursor need not go back for a later column. -/
theorem dropWhile_dropWhile (ms : List Match) {col col' : Nat} (h : col ≤ col') :
    (ms.dropWhile (·.last < col)).dropWhile (·.last < col') = ms.dropWhile (·.last < col') := by
  induction ms with
  | nil => rfl
  | cons m ms ih =>
    by_cases hm : m.last < col
    · have hm' : m.last < col' := Nat.lt_of_lt_of_le hm h
      simpa [hm, hm'] using ih
    · simp [hm]

end CodeViewer
