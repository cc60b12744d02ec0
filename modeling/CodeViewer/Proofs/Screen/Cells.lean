import CodeViewer.Proofs.Screen.Puts
import CodeViewer.Proofs.Text.Decimal

/-!
# What cells show

A cell shows what was put into it last. A text of characters that take one cell each puts one
character into each of the cells of its row, from its column on.
-/

namespace CodeViewer

/-- A sum that stays in the range of coordinates is one. -/
theorem wrap_eq {n : Int} (h : -9223372036854775808 ≤ n) (h' : n < 9223372036854775808) :
    wrap n = n := by
  rw [wrap, Int.bmod_eq_of_le]
  · omega
  · omega

/-! ### Characters in cells -/

namespace Screen

variable {s s' : Screen} {x y : Nat}

/-- There is a cell for each column and row. -/
def Filled (s : Screen) : Prop := s.cells.size = s.width * s.height

/-- A screen that was cleared has all its cells. -/
theorem filled_clear (s : Screen) : s.clear.Filled := Array.size_replicate

private theorem index_inj {width x' y' : Nat} (hx : x < width) (hx' : x' < width)
    (h : y' * width + x' = y * width + x) : x' = x ∧ y' = y := by
  have hcol := congrArg (· % width) h
  have hrow := congrArg (· / width) h
  simp only [Nat.mul_comm _ width, Nat.mul_add_mod, Nat.mod_eq_of_lt hx,
    Nat.mod_eq_of_lt hx'] at hcol
  simp only [Nat.mul_comm _ width, Nat.mul_add_div (Nat.zero_lt_of_lt hx), Nat.div_eq_of_lt hx,
    Nat.div_eq_of_lt hx', Nat.add_zero] at hrow
  exact ⟨hcol, hrow⟩

/-- A character goes into its cell and into no other one. -/
theorem cellAt_put (hs : s.Filled) (hx : x < s.width) (hy : y < s.height) (p : Put) :
    (s.put p).cellAt x y = if p.x = x ∧ p.y = y then ⟨p.char, p.style⟩ else s.cellAt x y := by
  unfold put
  split
  · next hinside =>
    simp only [inside, Bool.and_eq_true, decide_eq_true_eq] at hinside
    simp only [cellAt, Array.getElem?_setIfInBounds]
    by_cases hp : p.x = x ∧ p.y = y
    · obtain ⟨hpx, hpy⟩ := hp
      have hlt : y * s.width + x < s.cells.size := by
        have hrow := Nat.mul_le_mul_right s.width (Nat.succ_le_of_lt hy)
        rw [Nat.succ_mul] at hrow
        rw [hs, Nat.mul_comm s.width]
        omega
      rw [hpx, hpy, Int.toNat_natCast, Int.toNat_natCast, if_pos rfl, if_pos hlt,
        if_pos ⟨rfl, rfl⟩]
      rfl
    · rw [if_neg hp, if_neg]
      intro hindex
      obtain ⟨hcol, hrow⟩ := index_inj hx (by omega) hindex
      exact hp (by omega)
  · next hinside =>
    simp only [inside, Bool.and_eq_true, decide_eq_true_eq] at hinside
    rw [if_neg (by omega)]

private theorem put_sameSize (s : Screen) (p : Put) : s.SameSize (s.put p) := (s.putAll_keeps [p]).1

/-- A screen keeps all its cells when a character is put on it. -/
theorem Filled.put (hs : s.Filled) (p : Put) : (s.put p).Filled := by
  obtain ⟨hwidth, hheight⟩ := s.put_sameSize p
  rw [Filled, hwidth, hheight]
  unfold Screen.put
  split
  · exact Array.size_setIfInBounds.trans hs
  · exact hs

/-- A screen keeps all its cells when characters are put on it. -/
theorem Filled.putAll (hs : s.Filled) (ps : List Put) : (s.putAll ps).Filled := by
  induction ps generalizing s with
  | nil => exact hs
  | cons p ps ih => exact ih (hs.put p)

/-- A cell into which nothing is put stays as it is. -/
theorem cellAt_putAll_of_not_hit (hs : s.Filled) (hx : x < s.width) (hy : y < s.height)
    {ps : List Put} (h : ∀ p ∈ ps, ¬ (p.x = x ∧ p.y = y)) :
    (s.putAll ps).cellAt x y = s.cellAt x y := by
  induction ps generalizing s with
  | nil => rfl
  | cons p ps ih =>
    obtain ⟨hwidth, hheight⟩ := s.put_sameSize p
    calc ((s.put p).putAll ps).cellAt x y
      _ = (s.put p).cellAt x y :=
        ih (hs.put p) (hwidth ▸ hx) (hheight ▸ hy) fun p' hp' ↦ h p' (List.mem_cons_of_mem _ hp')
      _ = s.cellAt x y := by rw [cellAt_put hs hx hy, if_neg (h p List.mem_cons_self)]

/-- A cell into which one character is put, once or several times, shows it. -/
theorem cellAt_putAll_of_hit (hs : s.Filled) (hx : x < s.width) (hy : y < s.height)
    {ps : List Put} {cell : Cell} (hsame : ∀ p ∈ ps, p.x = x ∧ p.y = y → ⟨p.char, p.style⟩ = cell)
    (hhit : ∃ p ∈ ps, p.x = x ∧ p.y = y) : (s.putAll ps).cellAt x y = cell := by
  induction ps generalizing s with
  | nil =>
    obtain ⟨p, hp, -⟩ := hhit
    cases hp
  | cons p ps ih =>
    obtain ⟨hwidth, hheight⟩ := s.put_sameSize p
    by_cases hlater : ∃ p' ∈ ps, p'.x = x ∧ p'.y = y
    · exact ih (hs.put p) (hwidth ▸ hx) (hheight ▸ hy)
        (fun p' hp' ↦ hsame p' (List.mem_cons_of_mem _ hp')) hlater
    · have hnone : ∀ p' ∈ ps, ¬ (p'.x = x ∧ p'.y = y) := fun p' hp' hthere ↦
        hlater ⟨p', hp', hthere⟩
      have hhere : p.x = x ∧ p.y = y := by
        obtain ⟨p', hp', hthere⟩ := hhit
        rcases List.mem_cons.mp hp' with rfl | hp'
        · exact hthere
        · exact absurd hthere (hnone p' hp')
      calc ((s.put p).putAll ps).cellAt x y
        _ = (s.put p).cellAt x y :=
          cellAt_putAll_of_not_hit (hs.put p) (hwidth ▸ hx) (hheight ▸ hy) hnone
        _ = cell := by
          rw [cellAt_put hs hx hy, if_pos hhere]
          exact hsame p List.mem_cons_self hhere

end Screen

/-! ### Rows -/

/-- Every character moves on. -/
theorem one_le_advanceWidth (c : Char) : 1 ≤ advanceWidth c := Nat.le_max_right _ _

/-- The puts of a text whose characters take one cell each. -/
theorem mem_textPuts {text : List Char} (h : ∀ c ∈ text, advanceWidth c = 1) {x y : Int}
    {style : Style} {p : Put} :
    p ∈ textPuts x y style text ↔
      ∃ (j : Nat) (c : Char), text[j]? = some c ∧ p = ⟨x + j, y, c, style⟩ := by
  induction text generalizing x with
  | nil => simp [textPuts]
  | cons c rest ih =>
    rw [textPuts, List.mem_cons, h c List.mem_cons_self,
      ih fun d hd ↦ h d (List.mem_cons_of_mem _ hd)]
    constructor
    · rintro (rfl | ⟨j, d, hd, rfl⟩)
      · exact ⟨0, c, rfl, by simp⟩
      · refine ⟨j + 1, d, hd, ?_⟩
        rw [Put.mk.injEq]
        exact ⟨by omega, rfl, rfl, rfl⟩
    · rintro ⟨j, d, hd, rfl⟩
      cases j with
      | zero =>
        obtain rfl := Option.some.inj hd
        exact .inl (by simp)
      | succ j =>
        refine .inr ⟨j, d, hd, ?_⟩
        rw [Put.mk.injEq]
        exact ⟨by omega, rfl, rfl, rfl⟩

/-- A text whose characters take one cell each is put into the cells from its column on. -/
theorem Screen.cellAt_textPuts {s : Screen} (hs : s.Filled) {text : List Char}
    (h : ∀ c ∈ text, advanceWidth c = 1) {first x y : Nat} (hfirst : first ≤ x) (hx : x < s.width)
    (hy : y < s.height) (style : Style) :
    (s.putAll (textPuts first y style text)).cellAt x y =
      (text[x - first]?).elim (s.cellAt x y) (⟨·, style⟩) := by
  have hthere {p : Put} (hp : p ∈ textPuts first y style text) (hcol : p.x = x) :
      text[x - first]? = some p.char ∧ p.style = style := by
    obtain ⟨j, c, hc, rfl⟩ := (mem_textPuts h).mp hp
    have hcol : (first : Int) + j = x := hcol
    rw [show x - first = j by omega]
    exact ⟨hc, rfl⟩
  cases hc : text[x - first]? with
  | none =>
    refine cellAt_putAll_of_not_hit hs hx hy fun p hp hat ↦ ?_
    rw [(hthere hp hat.1).1] at hc
    cases hc
  | some c =>
    refine cellAt_putAll_of_hit hs hx hy (fun p hp hat ↦ ?_)
      ⟨_, (mem_textPuts h).mpr ⟨x - first, c, hc, rfl⟩, by simp only; omega, rfl⟩
    obtain ⟨hchar, hstyle⟩ := hthere hp hat.1
    rw [hstyle, Option.some.inj (hchar.symm.trans hc)]
    rfl

/-- The numbers from the first one up to the last one, which is left out. -/
theorem mem_interval {first last n : Int} : n ∈ interval first last ↔ first ≤ n ∧ n < last := by
  rw [interval, List.mem_map]
  constructor
  · rintro ⟨i, hi, rfl⟩
    rw [List.mem_range] at hi
    omega
  · rintro ⟨hfirst, hlast⟩
    exact ⟨(n - first).toNat, List.mem_range.mpr (by omega), by omega⟩

/-- The puts of a box that is one row high. -/
theorem mem_rectPuts_row {x y width : Int} (hx : wrap (x + width) = x + width)
    (hy : wrap (y + 1) = y + 1) {c : Char} {style : Style} {p : Put} :
    p ∈ rectPuts x y width 1 c style ↔
      ∃ col, x ≤ col ∧ col < x + width ∧ p = ⟨col, y, c, style⟩ := by
  rw [rectPuts, hx, hy, List.mem_flatMap]
  constructor
  · rintro ⟨col, hcol, hp⟩
    obtain ⟨row, hrow, rfl⟩ := List.mem_map.mp hp
    rw [mem_interval] at hcol hrow
    obtain rfl : row = y := by omega
    exact ⟨col, hcol.1, hcol.2, rfl⟩
  · rintro ⟨col, hfirst, hlast, rfl⟩
    exact ⟨col, mem_interval.mpr ⟨hfirst, hlast⟩,
      List.mem_map.mpr ⟨y, mem_interval.mpr ⟨Int.le_refl y, by omega⟩, rfl⟩⟩

/-- A decimal digit takes one cell. -/
theorem advanceWidth_digit {c : Char} (h : Text.IsDigit c) : advanceWidth c = 1 := by
  have hall : ∀ n < 10, advanceWidth (Char.ofNat (48 + n)) = 1 := by decide +kernel
  have hbounds := h.toNat_bounds
  have hdigit := hall (c.toNat - 48) (by omega)
  rwa [show 48 + (c.toNat - 48) = c.toNat by omega, Char.ofNat_toNat] at hdigit

end CodeViewer
