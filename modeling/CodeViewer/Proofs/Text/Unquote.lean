import CodeViewer.Proofs.Text.Slices
import CodeViewer.Text.Integer
import CodeViewer.Text.Quote
import Mathlib.Algebra.Group.Nat.Defs

/-!
# Reading quoted text

A text in quotes is read from left to right: a backslash starts an escape, every other
character stands for itself. Each text is read back from its quoted form, whatever bytes it is
made of, and the quoted form is on one line and has no tab in it.
-/

namespace CodeViewer.Text

/-! ### Reading -/

/-- The number written by the first `width` digits to a base; `n` is that of the digits before. -/
def numeral? (base : Nat) : (width n : Nat) → List Char → Option Nat
  | 0, n, _ => some n
  | _ + 1, _, [] => none
  | width + 1, n, c :: cs =>
    match digitValue? c with
    | none => none
    | some d => if d < base then numeral? base width (base * n + d) cs else none

/-- The bytes of the character whose code point is written with `width` digits, and the length
of the escape. -/
def codePoint? (width : Nat) (cs : List Char) : Option (List UInt8 × Nat) :=
  match numeral? 16 width 0 cs with
  | none => none
  | some n =>
    if n.isValidChar then some (String.utf8EncodeChar (Char.ofNat n), width + 1) else none

/-- The bytes an escape stands for, and the number of characters it takes behind its backslash.
Three octal digits stand for a byte as two hexadecimal ones do. -/
def escape? : List Char → Option (List UInt8 × Nat)
  | 'a' :: _ => some ([0x07], 1)
  | 'b' :: _ => some ([0x08], 1)
  | 'f' :: _ => some ([0x0c], 1)
  | 'n' :: _ => some ([0x0a], 1)
  | 'r' :: _ => some ([0x0d], 1)
  | 't' :: _ => some ([0x09], 1)
  | 'v' :: _ => some ([0x0b], 1)
  | '\\' :: _ => some ([0x5c], 1)
  | '"' :: _ => some ([0x22], 1)
  | 'x' :: cs => (numeral? 16 2 0 cs).map fun n ↦ ([UInt8.ofNat n], 3)
  | 'u' :: cs => codePoint? 4 cs
  | 'U' :: cs => codePoint? 8 cs
  | cs =>
    match numeral? 8 3 0 cs with
    | none => none
    | some n => if n < 0x100 then some ([UInt8.ofNat n], 3) else none

/-- The bytes between quotes, read behind the opening one. Nothing may follow the closing one,
and a line feed cannot stand between them. -/
def unquoteBody : List Char → Option (List UInt8)
  | [] => none
  | c :: cs =>
    if c = '"' then if cs = [] then some [] else none
    else if c = '\\' then
      match escape? cs with
      | none => none
      | some (bytes, width) => (unquoteBody (cs.drop width)).map (bytes ++ ·)
    else if c = '\n' then none
    else (unquoteBody cs).map (String.utf8EncodeChar c ++ ·)
  termination_by cs => cs.length
  decreasing_by all_goals simp only [List.length_cons, List.length_drop]; omega

/-- The text that is written in quotes, if it is. -/
def unquote : List Char → Option ByteArray
  | '"' :: cs => (unquoteBody cs).map List.toByteArray
  | _ => none

/-! ### Digits -/

private theorem digitValue?_digitChar {d : Nat} (h : d < 16) :
    digitValue? (Nat.digitChar d) = some d := by
  decide +revert

private theorem numeral?_hexDigits (width k m n : Nat) (cs : List Char) :
    numeral? 16 (width + k) m (hexDigits width n ++ cs) =
      numeral? 16 k (m * 16 ^ width + n % 16 ^ width) cs := by
  -- Digits are read from the front, and `m` is what those in front of them have come to.
  induction width generalizing k n cs with
  | zero => simp [hexDigits, Nat.mod_one]
  | succ width ih =>
    have hdigit : n % 16 < 16 := Nat.mod_lt n (by decide)
    have hsum : 16 * (m * 16 ^ width + n / 16 % 16 ^ width) + n % 16 =
        m * 16 ^ (width + 1) + n % 16 ^ (width + 1) := by
      have hscale : m * (16 * 16 ^ width) = m * 16 ^ width * 16 := by
        rw [Nat.mul_left_comm, Nat.mul_comm]
      rw [Nat.pow_succ', Nat.mod_mul, hscale]
      omega
    rw [hexDigits, List.append_assoc, List.singleton_append, Nat.add_right_comm, Nat.add_assoc,
      ih (k + 1), numeral?, digitValue?_digitChar hdigit]
    simp only [hdigit, if_true, hsum]

private theorem numeral?_hexDigits_self {width n : Nat} (h : n < 16 ^ width) (cs : List Char) :
    numeral? 16 width 0 (hexDigits width n ++ cs) = some n := by
  have hread := numeral?_hexDigits width 0 0 n cs
  rw [Nat.add_zero, Nat.zero_mul, Nat.zero_add, Nat.mod_eq_of_lt h] at hread
  exact hread

@[simp] private theorem length_hexDigits (width n : Nat) : (hexDigits width n).length = width := by
  induction width generalizing n with
  | zero => rfl
  | succ width ih => simp [hexDigits, ih]

private theorem isPrintable_of_mem_hexDigits {width n : Nat} {c : Char}
    (h : c ∈ hexDigits width n) :
    Unicode.isPrintable c = true := by
  induction width generalizing n with
  | zero => cases h
  | succ width ih =>
    rcases List.mem_append.mp h with h | h
    · exact ih h
    · rw [List.mem_singleton.mp h]
      have hdigit : n % 16 < 16 := Nat.mod_lt n (by decide)
      have hall : ∀ d < 16, Unicode.isPrintable (Nat.digitChar d) = true := by decide
      exact hall _ hdigit

/-! ### Escapes -/

private theorem codePoint?_hexDigits {width : Nat} {c : Char} (h : c.toNat < 16 ^ width)
    (cs : List Char) :
    codePoint? width (hexDigits width c.toNat ++ cs) =
      some (String.utf8EncodeChar c, width + 1) := by
  have hvalid : c.toNat.isValidChar := c.valid
  rw [codePoint?, numeral?_hexDigits_self h]
  simp only [hvalid, if_true, Char.ofNat_toNat]

/-- What stands behind the backslash of an escape, and the bytes it stands for. -/
def Escapes (text : List Char) (bytes : List UInt8) : Prop :=
  (∀ cs, escape? (text ++ cs) = some (bytes, text.length)) ∧
    ∀ c ∈ text, Unicode.isPrintable c = true

private theorem escapes_byte {n : Nat} (h : n < 0x100) :
    Escapes ('x' :: hexDigits 2 n) [UInt8.ofNat n] := by
  constructor
  · intro cs
    rw [List.cons_append, escape?, numeral?_hexDigits_self h, List.length_cons, length_hexDigits]
    rfl
  · intro c hc
    rcases List.mem_cons.mp hc with rfl | hc
    · decide
    · exact isPrintable_of_mem_hexDigits hc

private theorem utf8EncodeChar_of_ascii {c : Char} (h : c.toNat < 0x80) :
    String.utf8EncodeChar c = [UInt8.ofNat c.toNat] := by
  have hle : c.val.toNat ≤ 0x7f := Nat.le_of_lt_succ h
  simp only [String.utf8EncodeChar, hle, if_true]
  rfl

/-- A character is written with the escape `text`. -/
def WrittenAs (c : Char) (chars : List Char) : Prop :=
  ∃ text, chars = '\\' :: text ∧ Escapes text (String.utf8EncodeChar c)

private theorem writtenAs_letter {c e : Char} {n : Nat} (hn : c.toNat = n) (hlt : n < 0x80)
    (hread : ∀ cs, escape? (e :: cs) = some ([UInt8.ofNat n], 1))
    (hprint : Unicode.isPrintable e = true) : WrittenAs c ['\\', e] := by
  refine ⟨[e], rfl, ?_, fun d hd ↦ ?_⟩
  · rw [utf8EncodeChar_of_ascii (hn ▸ hlt), hn]
    exact hread
  · rw [List.mem_singleton.mp hd]
    exact hprint

private theorem writtenAs_codePoint {c e : Char} {width : Nat} (h : c.toNat < 16 ^ width)
    (hread : ∀ cs, escape? (e :: cs) = codePoint? width cs)
    (hprint : Unicode.isPrintable e = true) :
    WrittenAs c ('\\' :: e :: hexDigits width c.toNat) := by
  refine ⟨e :: hexDigits width c.toNat, rfl, fun cs ↦ ?_, fun d hd ↦ ?_⟩
  · rw [List.cons_append, hread, codePoint?_hexDigits h, List.length_cons, length_hexDigits]
  · rcases List.mem_cons.mp hd with rfl | hd
    · exact hprint
    · exact isPrintable_of_mem_hexDigits hd

private theorem writtenAs_quoteChar {c : Char} (h : Unicode.isPrintable c = false) :
    WrittenAs c (quoteChar c) := by
  have hmark : (c == '"' || c == '\\') = false := by
    refine Bool.eq_false_iff.mpr fun hmark ↦ ?_
    rcases (by simpa using hmark : c = '"' ∨ c = '\\') with rfl | rfl
    · exact absurd h (by decide)
    · exact absurd h (by decide)
  simp only [quoteChar, hmark, h, Bool.false_eq_true, if_false]
  split
  case h_8 =>
    split
    · next hascii =>
      have hascii : c.toNat < 0x20 ∨ c.toNat = 0x7f := by simpa using hascii
      have hlt : c.toNat < 0x80 := by omega
      refine ⟨_, rfl, ?_⟩
      rw [utf8EncodeChar_of_ascii hlt]
      exact escapes_byte (Nat.lt_trans hlt (by decide))
    · split
      · next hlt => exact writtenAs_codePoint hlt (fun _ ↦ rfl) (by decide)
      · apply writtenAs_codePoint ?_ (fun _ ↦ rfl) (by decide)
        have hvalid : c.toNat.isValidChar := c.valid
        simp only [Nat.isValidChar] at hvalid
        omega
  -- What is left are the control characters with a letter of their own.
  all_goals
    next hn => exact writtenAs_letter hn (by decide) (fun _ ↦ rfl) (by decide)

/-! ### Reading what was written -/

private theorem unquoteBody_cons {c : Char} (h : Unicode.isPrintable c = true) (hquote : c ≠ '"')
    (hescape : c ≠ '\\') (cs : List Char) :
    unquoteBody (c :: cs) = (unquoteBody cs).map (String.utf8EncodeChar c ++ ·) := by
  have hfeed : c ≠ '\n' := by
    rintro rfl
    exact absurd h (by decide)
  rw [unquoteBody]
  simp only [hquote, hescape, hfeed, if_false]

private theorem unquoteBody_escape {text : List Char} {bytes : List UInt8} (h : Escapes text bytes)
    (cs : List Char) :
    unquoteBody ('\\' :: text ++ cs) = (unquoteBody cs).map (bytes ++ ·) := by
  have hmark : ¬ ('\\' = '"') := by decide
  rw [List.cons_append, unquoteBody]
  simp only [hmark, if_false, if_true, h.1 cs, List.drop_left]

private theorem unquoteBody_closing : unquoteBody ['"'] = some [] := by
  rw [unquoteBody]
  rfl

private theorem quoteChar_cases (c : Char) :
    (quoteChar c = [c] ∧ Unicode.isPrintable c = true ∧ c ≠ '"' ∧ c ≠ '\\') ∨
      WrittenAs c (quoteChar c) := by
  cases hprint : Unicode.isPrintable c with
  | false => exact .inr (writtenAs_quoteChar hprint)
  | true =>
    by_cases hmark : c = '"' ∨ c = '\\'
    · right
      have hquoted : quoteChar c = ['\\', c] := by simp [quoteChar, hmark]
      rw [hquoted]
      rcases hmark with rfl | rfl
      · exact writtenAs_letter rfl (by decide) (fun _ ↦ rfl) (by decide)
      · exact writtenAs_letter rfl (by decide) (fun _ ↦ rfl) (by decide)
    · left
      rw [not_or] at hmark
      exact ⟨by simp [quoteChar, hmark, hprint], rfl, hmark⟩

/-- A piece is written as a graphic character that stands for itself, or with an escape. -/
theorem quotePiece_cases (p : Piece) :
    (∃ c, p = .char c ∧ quotePiece p = [c] ∧ Unicode.isPrintable c = true ∧ c ≠ '"' ∧ c ≠ '\\') ∨
      ∃ text, quotePiece p = '\\' :: text ∧ Escapes text p.bytes := by
  cases p with
  | char c =>
    rcases quoteChar_cases c with h | h
    · exact .inl ⟨c, rfl, h⟩
    · exact .inr h
  | stray b =>
    have hbyte := escapes_byte (n := b.toNat) b.toNat_lt
    rw [UInt8.ofNat_toNat] at hbyte
    exact .inr ⟨_, rfl, hbyte⟩

/-- A piece is read back. -/
theorem unquoteBody_quotePiece (p : Piece) (cs : List Char) :
    unquoteBody (quotePiece p ++ cs) = (unquoteBody cs).map (p.bytes ++ ·) := by
  rcases quotePiece_cases p with ⟨c, rfl, hp, hprint, hquote, hescape⟩ | ⟨text, hp, hescapes⟩
  · rw [hp, List.singleton_append, unquoteBody_cons hprint hquote hescape]
    rfl
  · rw [hp, unquoteBody_escape hescapes]

/-- Pieces are read back. -/
theorem unquoteBody_flatMap (ps : List (Nat × Piece)) :
    unquoteBody (ps.flatMap (fun p ↦ quotePiece p.2) ++ ['"']) =
      some (ps.flatMap (·.2.bytes)) := by
  induction ps with
  | nil => exact unquoteBody_closing
  | cons p ps ih =>
    rw [List.flatMap_cons, List.append_assoc, unquoteBody_quotePiece, ih]
    rfl

/-- A text is made up of the bytes of its pieces. -/
theorem flatMap_bytes_pieces (text : ByteArray) :
    (pieces text).toList.flatMap (·.2.bytes) = byteList text := by
  have h := (pieces_laid text).byteList_drop
  rw [List.drop_zero, List.drop_of_length_le (Nat.le_of_eq (length_byteList text)),
    List.append_nil] at h
  exact h.symm

/-- Every text is read back from its quoted form. -/
theorem unquote_quote (text : ByteArray) : unquote (quote text).toList = some text := by
  rw [quote, String.toList_ofList, List.cons_append, unquote, unquoteBody_flatMap,
    flatMap_bytes_pieces, Option.map_some, Option.some_inj]
  exact byteList_inj.mp (byteList_toByteArray _)

-- Control characters and a stray byte are escaped, a real U+FFFD is not.
example : unquote "\"\\x1f\\x7f\\xff\uFFFD\"".toList =
    some [0x1f, 0x7f, 0xff, 0xef, 0xbf, 0xbd].toByteArray := by
  decide +kernel

/-- A quoted text consists of graphic characters and blanks. -/
theorem isPrintable_of_mem_quote {text : ByteArray} {c : Char} (h : c ∈ (quote text).toList) :
    Unicode.isPrintable c = true := by
  have hpiece : ∀ p, ∀ c ∈ quotePiece p, Unicode.isPrintable c = true := by
    intro p c hc
    rcases quotePiece_cases p with ⟨d, -, hp, hprint, -⟩ | ⟨text, hp, hescapes⟩
    · rw [hp] at hc
      rw [List.mem_singleton.mp hc]
      exact hprint
    · rw [hp] at hc
      rcases List.mem_cons.mp hc with rfl | hc
      · decide
      · exact hescapes.2 c hc
  rw [quote, String.toList_ofList, List.cons_append, List.mem_cons, List.mem_append,
    List.mem_singleton] at h
  rcases h with rfl | h | rfl
  · decide
  · obtain ⟨p, -, hc⟩ := List.mem_flatMap.mp h
    exact hpiece p.2 c hc
  · decide

end CodeViewer.Text
