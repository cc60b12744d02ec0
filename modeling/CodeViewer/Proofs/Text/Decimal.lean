import CodeViewer.Proofs.Except
import CodeViewer.Text.Integer
import Mathlib.Algebra.Group.Nat.Defs

/-!
# Decimal numbers

A text of decimal digits is read as the number it denotes, if 63 bits hold that number, and is
reported to be out of range otherwise, however long it is.
-/

namespace CodeViewer.Text

/-- A decimal digit. -/
def IsDigit (c : Char) : Prop := '0' ≤ c ∧ c ≤ '9'

instance : DecidablePred IsDigit := fun c ↦ inferInstanceAs (Decidable ('0' ≤ c ∧ c ≤ '9'))

/-- The number that digits denote when they follow those of the number `n`. -/
def decimalFrom (n : Nat) (digits : List Char) : Nat :=
  digits.foldl (fun n c ↦ 10 * n + (c.toNat - '0'.toNat)) n

/-- The number that digits denote. -/
def decimalValue (digits : List Char) : Nat := decimalFrom 0 digits

variable {c : Char} {digits : List Char}

/-! ### Digits -/

/-- The test for digits finds them. -/
theorem isDigit_iff : IsDigit c ↔ ('0' ≤ c && c ≤ '9') = true := by
  rw [Bool.and_eq_true, decide_eq_true_eq, decide_eq_true_eq]
  rfl

/-- The code points of digits. -/
theorem IsDigit.toNat_bounds (h : IsDigit c) : 48 ≤ c.toNat ∧ c.toNat ≤ 57 :=
  ⟨UInt32.le_iff_toNat_le.mp h.1, UInt32.le_iff_toNat_le.mp h.2⟩

private theorem IsDigit.digitValue? (h : IsDigit c) :
    digitValue? c = some (c.toNat - '0'.toNat) ∧ c.toNat - '0'.toNat < 10 := by
  have hbounds := h.toNat_bounds
  exact ⟨if_pos (isDigit_iff.mp h), show c.toNat - 48 < 10 by omega⟩

private theorem IsDigit.not_isSpace (h : IsDigit c) : Unicode.isSpace c = false := by
  have hbounds := h.toNat_bounds
  simp only [Unicode.isSpace, Bool.or_eq_false_iff, Bool.and_eq_false_iff, decide_eq_false_iff_not,
    beq_eq_false_iff_ne]
  omega

/-- There is no white space around digits. -/
theorem trimSpace_digits (h : ∀ c ∈ digits, IsDigit c) : trimSpace digits = digits := by
  have hkeep {text : List Char} (htext : ∀ c ∈ text, IsDigit c) :
      text.dropWhile Unicode.isSpace = text := by
    cases text with
    | nil => rfl
    | cons c rest =>
      rw [List.dropWhile_cons_of_neg]
      rw [(htext c List.mem_cons_self).not_isSpace]
      exact Bool.false_ne_true
  rw [trimSpace, hkeep h, hkeep fun c hc ↦ h c (List.mem_reverse.mp hc), List.reverse_reverse]

/-! ### Numbers -/

/-- A number has no character in it that is not a digit. -/
theorem not_mem_toDigits {c : Char} (hc : c.isDigit = false) (n : Nat) :
    c ∉ Nat.toDigits 10 n := by
  intro hmem
  have hdigit := Nat.isDigit_of_mem_toDigits (by decide) (by decide) hmem
  rw [hc] at hdigit
  cases hdigit

private theorem le_decimalFrom (n : Nat) (digits : List Char) : n ≤ decimalFrom n digits := by
  induction digits generalizing n with
  | nil => exact Nat.le_refl n
  | cons c rest ih =>
    have hmore := ih (10 * n + (c.toNat - '0'.toNat))
    change n ≤ decimalFrom (10 * n + (c.toNat - '0'.toNat)) rest
    omega

/-- The value of digits is the number they denote, as long as 64 bits hold it. A number that is too
large is so from some digit on. -/
theorem digitsValue_digits (n : Nat) (h : ∀ c ∈ digits, IsDigit c) (hn : n < 2 ^ 64) :
    digitsValue 10 n digits =
      if decimalFrom n digits < 2 ^ 64 then .ok (decimalFrom n digits) else .error .outOfRange := by
  induction digits generalizing n with
  | nil => exact (if_pos hn).symm
  | cons c rest ih =>
    obtain ⟨hvalue, hlt⟩ := (h c List.mem_cons_self).digitValue?
    have hmore := le_decimalFrom (10 * n + (c.toNat - '0'.toNat)) rest
    change _ = if decimalFrom (10 * n + (c.toNat - '0'.toNat)) rest < _ then
      Except.ok (decimalFrom (10 * n + (c.toNat - '0'.toNat)) rest) else _
    simp only [digitsValue, hvalue]
    rw [if_neg (by omega)]
    split
    · rw [if_neg (by omega)]
    · exact ih _ (fun c hc ↦ h c (List.mem_cons_of_mem _ hc)) (by omega)

/-- Digits are read as the number they denote, if 63 bits hold it. -/
theorem parseDecimal_digits (h : ∀ c ∈ digits, IsDigit c) (hne : digits ≠ []) :
    parseDecimal digits =
      if decimalValue digits < 2 ^ 63 then .ok (decimalValue digits)
      else .error .outOfRange := by
  have hsign : splitSign digits = (false, digits) := by
    unfold splitSign
    split
    · exact absurd (h '+' List.mem_cons_self) (by decide)
    · exact absurd (h '-' List.mem_cons_self) (by decide)
    · rfl
  simp only [parseDecimal, hsign]
  rw [if_neg (by rw [List.isEmpty_iff]; exact hne), digitsValue_digits 0 h (by decide)]
  change (if decimalValue digits < _ then Except.ok (decimalValue digits) else _) >>= _ = _
  split
  · rfl
  · rw [if_neg (by omega)]
    rfl

end CodeViewer.Text
