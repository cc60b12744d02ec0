import CodeViewer.Dump
import CodeViewer.Proofs.Scan.Classes
import CodeViewer.Proofs.Scan.Tiling
import CodeViewer.Proofs.Text.Decimal
import CodeViewer.Proofs.Text.Unquote

/-!
# Reading dumps

A dump can be read back. Each of its lines holds two numbers in front of the first two tabs and
a quoted text behind the last one; the class stands in between and may have tabs in it itself.
Nothing but a class can break a line in two, so that a dump of a grammar whose classes are on one
line gives back the tokens of the scan, whatever bytes were scanned.
-/

namespace CodeViewer

/-- No class of a grammar is broken into lines. -/
def CompiledGrammar.ClassesOnOneLine (g : CompiledGrammar) : Prop :=
  ∀ cls ∈ g.classes, '\n' ∉ cls.toList

instance (g : CompiledGrammar) : Decidable g.ClassesOnOneLine :=
  inferInstanceAs (Decidable (∀ cls ∈ g.classes, '\n' ∉ cls.toList))

namespace Dump

/-! ### Reading -/

/-- What stands in front of the first tab and what stands behind it. -/
def cutAtTab (cs : List Char) : Option (List Char × List Char) :=
  match cs.dropWhile (· ≠ '\t') with
  | [] => none
  | _ :: rest => some (cs.takeWhile (· ≠ '\t'), rest)

/-- What stands in front of the last tab and what stands behind it. -/
def cutAtLastTab (cs : List Char) : Option (List Char × List Char) :=
  (cutAtTab cs.reverse).map fun (rest, before) ↦ (before.reverse, rest.reverse)

/-- The value of a decimal number. -/
def decimal? (cs : List Char) : Option Nat :=
  if !cs.isEmpty && cs.all Char.isDigit then some (Nat.ofDigitChars 10 cs 0) else none

/-- The token a line was written for. -/
def decodeLine (line : List Char) : Option Token := do
  let (start, line) ← cutAtTab line
  let (stop, line) ← cutAtTab line
  let (cls, quoted) ← cutAtLastTab line
  let text ← Text.unquote quoted
  return ⟨String.ofList cls, ← decimal? start, ← decimal? stop, text⟩

/-- The tokens lines were written for. Nothing stands behind the last line feed. -/
def decodeLines : List (List Char) → Option (List Token)
  | [] => none
  | [rest] => if rest = [] then some [] else none
  | line :: lines => do
    let t ← decodeLine line
    let ts ← decodeLines lines
    return t :: ts

/-- The tokens a dump was written for. -/
def decode (dump : String) : Option (List Token) := decodeLines (dump.toList.splitOn '\n')

/-! ### Fields -/

private theorem cutAtTab_append {field : List Char} (h : '\t' ∉ field) (rest : List Char) :
    cutAtTab (field ++ '\t' :: rest) = some (field, rest) := by
  have hne : ∀ c ∈ field, decide (c ≠ '\t') = true := fun c hc ↦
    decide_eq_true fun he ↦ h (he ▸ hc)
  rw [cutAtTab, List.dropWhile_append_of_pos hne, List.takeWhile_append_of_pos hne]
  simp

private theorem cutAtLastTab_append {field : List Char} (h : '\t' ∉ field) (before : List Char) :
    cutAtLastTab (before ++ '\t' :: field) = some (before, field) := by
  have hrev : (before ++ '\t' :: field).reverse = field.reverse ++ '\t' :: before.reverse := by
    simp
  rw [cutAtLastTab, hrev, cutAtTab_append (by simpa using h)]
  simp

private theorem decimal?_toDigits (n : Nat) : decimal? (Nat.toDigits 10 n) = some n := by
  have hdigits : (Nat.toDigits 10 n).all Char.isDigit = true := List.all_eq_true.mpr fun c hc ↦
    Nat.isDigit_of_mem_toDigits (by decide) (by decide) hc
  have hsome : (Nat.toDigits 10 n).isEmpty = false :=
    Bool.eq_false_iff.mpr fun he ↦ Nat.toDigits_ne_nil (List.isEmpty_iff.mp he)
  simp only [decimal?, hsome, hdigits, Bool.not_false, Bool.and_self, if_true,
    Nat.ofDigitChars_ten_toDigits]

private theorem not_mem_quote {c : Char} (hc : Unicode.isPrintable c = false) (text : ByteArray) :
    c ∉ (Text.quote text).toList := by
  intro hmem
  rw [Text.isPrintable_of_mem_quote hmem] at hc
  cases hc

/-! ### Lines -/

/-- The line of a token without its line feed. -/
def lineChars (t : Token) : List Char :=
  Nat.toDigits 10 t.start ++ '\t' :: (Nat.toDigits 10 t.stop ++ '\t' :: (t.cls.toList ++
    '\t' :: (Text.quote t.text).toList))

private theorem toList_tokenLine (t : Token) : (tokenLine t).toList = lineChars t ++ ['\n'] := by
  simp [tokenLine, lineChars]

private theorem decodeLine_lineChars (t : Token) : decodeLine (lineChars t) = some t := by
  have htab : ∀ n, '\t' ∉ Nat.toDigits 10 n := Text.not_mem_toDigits (by decide)
  have hquote : '\t' ∉ (Text.quote t.text).toList := not_mem_quote (by decide) t.text
  simp only [decodeLine, lineChars, cutAtTab_append (htab _), cutAtLastTab_append hquote,
    decimal?_toDigits, Text.unquote_quote, Option.bind_eq_bind, Option.bind_some,
    String.ofList_toList, Option.pure_def]

private theorem not_mem_lineChars {t : Token} (h : '\n' ∉ t.cls.toList) : '\n' ∉ lineChars t := by
  have hfeed : ∀ n, '\n' ∉ Nat.toDigits 10 n := Text.not_mem_toDigits (by decide)
  have hquote : '\n' ∉ (Text.quote t.text).toList := not_mem_quote (by decide) t.text
  simp [lineChars, hfeed, hquote, h]

private theorem decodeLines_cons (line : List Char) {lines : List (List Char)} (h : lines ≠ []) :
    decodeLines (line :: lines) =
      (decodeLine line).bind fun t ↦ (decodeLines lines).map (t :: ·) := by
  cases lines with
  | nil => exact absurd rfl h
  | cons next lines =>
    simp only [decodeLines, Option.bind_eq_bind, Option.pure_def, Option.map_eq_bind]
    rfl

/-- The lines of tokens are read back. -/
theorem decode_render {tokens : List Token} (h : ∀ t ∈ tokens, '\n' ∉ t.cls.toList) :
    decode (render tokens) = some tokens := by
  induction tokens with
  | nil => rfl
  | cons t tokens ih =>
    obtain ⟨hfirst, hrest⟩ := List.forall_mem_cons.mp h
    have hchars : (render (t :: tokens)).toList =
        lineChars t ++ '\n' :: (render tokens).toList := by
      simp [render, toList_tokenLine]
    have hsplit : (render (t :: tokens)).toList.splitOn '\n' =
        lineChars t :: (render tokens).toList.splitOn '\n' := by
      rw [hchars, List.splitOn_append_cons_self_of_not_mem (not_mem_lineChars hfirst)]
    have hlater : decodeLines ((render tokens).toList.splitOn '\n') = some tokens := ih hrest
    rw [decode, hsplit, decodeLines_cons _ (List.splitOn_ne_nil _ _), decodeLine_lineChars, hlater]
    rfl

/-! ### Dumps -/

variable {g : CompiledGrammar} {maxDepth : Int} {source : ByteArray}

private theorem not_mem_of_gives (h : g.ClassesOnOneLine) {cls : Class} (hcls : g.Gives cls) :
    '\n' ∉ cls.toList := by
  cases hcls with
  | ofGrammar hmem => exact h cls hmem
  | identifier => decide
  | punctuation => decide
  | unknown => decide

/-- The tokens of a scan are read back from their lines. -/
theorem decode_render_scan (h : g.ClassesOnOneLine) (maxDepth : Int) (source : ByteArray) :
    decode (render (scan g maxDepth source).1.toList) = some (scan g maxDepth source).1.toList :=
  decode_render fun t ht ↦ not_mem_of_gives h (Scanner.scan_classed g maxDepth source t ht)

/-- What comes of a dump into a working sink: the lines of the tokens and the error of the scan,
or nothing but a fault. -/
theorem text_working (g : CompiledGrammar) (maxDepth : Int) (source : ByteArray) (c : Counters) :
    (∃ fault, (scan g maxDepth source).2.bind ScanError.fault? = some fault ∧
      (text .working g maxDepth source c).error = some (.fault fault)) ∨
    ((text .working g maxDepth source c).text = render (scan g maxDepth source).1.toList ∧
      (text .working g maxDepth source c).error =
        (scan g maxDepth source).2.map DumpError.scan) := by
  cases hfault : (scan g maxDepth source).2.bind ScanError.fault? with
  | some fault =>
    left
    refine ⟨fault, rfl, ?_⟩
    simp only [text, hfault]
  | none =>
    right
    simp only [text, hfault, and_self]

/-- A dump that reports nothing has written all tokens of a scan without an error. -/
theorem text_complete {sink : Sink} {c : Counters}
    (h : (text sink g maxDepth source c).error = none) :
    (scan g maxDepth source).2 = none ∧
      (text sink g maxDepth source c).text = render (scan g maxDepth source).1.toList := by
  cases hfault : (scan g maxDepth source).2.bind ScanError.fault? with
  | some fault => simp [text, hfault] at h
  | none =>
    cases sink with
    | working =>
      simp only [text, hfault] at h ⊢
      exact ⟨Option.map_eq_none_iff.mp h, trivial⟩
    | failing reason =>
      simp only [text, hfault] at h ⊢
      split at h
      · next hempty =>
        have hnil : (scan g maxDepth source).1.toList = [] := by simpa using hempty
        rw [if_pos hempty, hnil]
        exact ⟨Option.map_eq_none_iff.mp h, rfl⟩
      · cases h

private theorem eq_outOfText_of_fault {e : Option ScanError} {fault : Fault}
    (h : e.bind ScanError.fault? = some fault) : e = some .outOfText := by
  cases e with
  | none => cases h
  | some e =>
    cases e with
    | outOfText => rfl
    | _ => cases h

/-- A dump loses nothing. What is written for a text is read back as the tokens of its scan, also
where an error cuts the scan short; a dump that reports nothing is read back as tokens that make
up the text, wherever it went. Only a search that leaves the text by itself can end the dump
before it is written. -/
theorem dump_lossless (g : CompiledGrammar) (hclasses : g.ClassesOnOneLine) (maxDepth : Int)
    (source : ByteArray) (c : Counters) :
    ((∀ fault, (text .working g maxDepth source c).error ≠ some (.fault fault)) →
      decode (text .working g maxDepth source c).text = some (scan g maxDepth source).1.toList ∧
        (text .working g maxDepth source c).error =
          (scan g maxDepth source).2.map DumpError.scan) ∧
    ((∃ fault, (text .working g maxDepth source c).error = some (.fault fault)) →
      g.MatchesLieIn (Text.Source.ofText source) →
        g.BreaksDown (Text.Source.ofText source) 0 .outOfRange) ∧
    ∀ sink, (text sink g maxDepth source c).error = none →
      ∃ tokens, decode (text sink g maxDepth source c).text = some tokens ∧
        joinedText tokens = source := by
  have hread := decode_render_scan hclasses maxDepth source
  refine ⟨?_, ?_, ?_⟩
  · intro hsound
    rcases text_working g maxDepth source c with ⟨fault, -, hfault⟩ | ⟨hwritten, herror⟩
    · exact absurd hfault (hsound fault)
    · rw [hwritten]
      exact ⟨hread, herror⟩
  · rintro ⟨fault, hfault⟩ hm
    rcases text_working g maxDepth source c with ⟨fault', hfault', -⟩ | ⟨-, herror⟩
    · obtain ⟨st, hfails⟩ :=
        Scanner.exists_failsAt_of_scan (eq_outOfText_of_fault hfault') (by simp)
      exact (hfails.searchError.mono (Nat.zero_le st.pos)).breaksDown hm rfl
    · rw [herror] at hfault
      simp at hfault
  · intro sink hnone
    obtain ⟨hscan, hwritten⟩ := text_complete hnone
    rw [hwritten]
    exact ⟨_, hread, Scanner.joinedText_scan hscan⟩

/-- A line feed, a tab, a stray byte and a quote are read back in front of a mode that is refused,
and from a dump that reports nothing. -/
theorem dump_lossless_nestedBlocks :
    ∃ g, compile nestedBlocks = .ok g ∧ g.ClassesOnOneLine ∧
      decode (text .working g 1 ⟨#[60, 10, 9, 255, 34, 60]⟩ .empty).text =
        some (scan g 1 ⟨#[60, 10, 9, 255, 34, 60]⟩).1.toList ∧
      ∃ tokens, decode (text .working g 1 ⟨#[60, 10, 9, 255, 34]⟩ .empty).text = some tokens ∧
        joinedText tokens = ⟨#[60, 10, 9, 255, 34]⟩ := by
  obtain ⟨g, hg, htest⟩ := exists_compiled nestedBlocks
    (fun g ↦ decide g.ClassesOnOneLine &&
      (text .working g 1 ⟨#[60, 10, 9, 255, 34, 60]⟩ .empty).error ==
        some (.scan (.tooDeep 1 5 "block")) &&
      (text .working g 1 ⟨#[60, 10, 9, 255, 34]⟩ .empty).error == none)
    (by decide +kernel)
  simp only [Bool.and_eq_true, decide_eq_true_eq, beq_iff_eq] at htest
  obtain ⟨⟨hclasses, herror⟩, hnone⟩ := htest
  have hsound : ∀ fault, (text .working g 1 ⟨#[60, 10, 9, 255, 34, 60]⟩ .empty).error ≠
      some (.fault fault) := by
    intro fault hfault
    rw [herror] at hfault
    cases hfault
  have hcut := (dump_lossless g hclasses 1 ⟨#[60, 10, 9, 255, 34, 60]⟩ .empty).1 hsound
  have hwhole := (dump_lossless g hclasses 1 ⟨#[60, 10, 9, 255, 34]⟩ .empty).2.2 .working hnone
  exact ⟨g, hg, hclasses, hcut.1, hwhole⟩

end Dump

end CodeViewer
