import CodeViewer.Proofs.Except
import CodeViewer.Proofs.Highlight.Matches
import CodeViewer.Widget.CodeView

/-!
# What is drawn is what was scanned

A view draws each character of its text in the style of the token that holds it. The characters of
a line are counted while they are drawn and the matches of the line are followed by a cursor that
only moves forward; this comes to the same as looking up the token of every character in the whole
text.
-/

namespace CodeViewer

open Text (Piece Laid Boundary pieceLines withoutDelimiter feedPiece byteAt)

/-! ### What was scanned -/

namespace Highlighter

/-- The tokens a scan of a text yields. Without a language there are none. -/
def scanned (h : Highlighter) (contents : ByteArray) : List Token :=
  match h.language with
  | none => []
  | some l => (scan l.grammar h.maxDepth contents).1.toList

/-- The style of the token that holds a piece of a text, or that of plain text if none does. -/
def styleOfPiece (h : Highlighter) (contents : ByteArray) (p : Nat × Piece) : Style :=
  match (h.scanned contents).find? (holdsPiece p) with
  | some t => ColorScheme.styleOf h.scheme (Language.groupOf h.language t.cls)
  | none => ColorScheme.styleOf h.scheme .default

/-- The tokens a scan yields lie end to end. -/
theorem scanned_tiles (h : Highlighter) (contents : ByteArray) :
    ∃ stop, Tiles contents 0 (h.scanned contents) stop := by
  unfold scanned
  split
  · exact ⟨0, rfl⟩
  · next l _ => exact Scanner.scan_tiles l.grammar h.maxDepth contents

/-- The characters of a line, without its delimiter, with the styles of the tokens that hold
them. -/
def styledLine (h : Highlighter) (contents : ByteArray) (line : Nat) : List (Char × Style) :=
  match (pieceLines contents)[line]? with
  | none => []
  | some ps => (withoutDelimiter ps).map fun p ↦ (p.2.toChar, h.styleOfPiece contents p)

end Highlighter

namespace CodeView

/-! ### Reading a line -/

private theorem endsWith_eq {contents : ByteArray} {line : List (Nat × Piece)}
    {start middle stop : Nat} {c : Char} {b : UInt8} (hc : c.utf8Size = 1)
    (hb : c.val.toUInt8 = b) (h : Laid contents start line middle) (hle : middle ≤ stop)
    (hstop : stop ≤ contents.size) :
    (decide (start < middle) &&
        byteAt (contents.extract start stop) (middle - start - 1) == b) =
      line.getLast?.any (·.2 == .char c) := by
  rcases List.eq_nil_or_concat line with rfl | ⟨front, p, rfl⟩
  · obtain rfl : start = middle := h
    simp
  · rw [List.concat_eq_append] at h ⊢
    have hlt : start < middle := by
      obtain ⟨j, hfront, -, -, -, hend⟩ := Laid.append_iff.mp h
      have hj := hfront.le
      have hpos := p.2.size_pos
      have hsum : j + p.2.size = middle := hend
      omega
    have hbyte : byteAt (contents.extract start stop) (middle - start - 1) =
        byteAt contents (middle - 1) := by
      have hpart : middle - start - 1 < (contents.extract start stop).size := by
        simp only [ByteArray.size_extract]
        omega
      have hwhole : middle - 1 < contents.size := by omega
      have hsum : start + (middle - start - 1) = middle - 1 := by omega
      simp only [byteAt, hpart, hwhole, dite_true, ByteArray.getElem_extract, hsum]
    rw [List.getLast?_concat, Option.any_some, decide_eq_true hlt, Bool.true_and, hbyte, ← hb,
      Bool.eq_iff_iff, beq_iff_eq, beq_iff_eq]
    exact Laid.byteAt_last hc h

private theorem laid_dropLast {contents : ByteArray} {line : List (Nat × Piece)}
    {start middle : Nat} {c : Char} (hc : c.utf8Size = 1) (h : Laid contents start line middle)
    (hlast : line.getLast?.any (·.2 == .char c) = true) :
    start < middle ∧ Laid contents start line.dropLast (middle - 1) := by
  rcases List.eq_nil_or_concat line with rfl | ⟨front, p, rfl⟩
  · cases hlast
  · rw [List.concat_eq_append] at h hlast ⊢
    rw [List.getLast?_concat, Option.any_some] at hlast
    obtain ⟨j, hfront, -, -, -, hend⟩ := Laid.append_iff.mp h
    have hone : p.2.size = 1 := by
      rw [eq_of_beq hlast]
      exact hc
    obtain rfl : j + 1 = middle := hone ▸ hend
    rw [List.dropLast_concat]
    exact ⟨Nat.lt_succ_of_le hfront.le, hfront⟩

private theorem trimDelimiter_extract {contents : ByteArray} {line : List (Nat × Piece)}
    {start stop : Nat}
    (h : Laid contents start line stop) (hstart : start ≤ contents.size) :
    ∃ stop', Laid contents start (withoutDelimiter line) stop' ∧
      trimDelimiter (contents.extract start stop) = contents.extract start stop' := by
  have hstop := h.le_size hstart
  have hsize : (contents.extract start stop).size = stop - start := by
    simp only [ByteArray.size_extract]
    omega
  have hcut {i stop' : Nat} (hi : start + i = stop') (hle : stop' ≤ stop) :
      (contents.extract start stop).extract 0 i = contents.extract start stop' := by
    rw [ByteArray.extract_extract, Nat.add_zero, hi, Nat.min_eq_left hle]
  have hfeed : (decide (0 < stop - start) &&
      byteAt (contents.extract start stop) (stop - start - 1) == 0x0a) =
        line.getLast?.any feedPiece := by
    rw [decide_eq_decide.mpr (Nat.sub_pos_iff_lt (m := start) (n := stop))]
    exact endsWith_eq (by decide) (by decide) h (Nat.le_refl _) hstop
  unfold trimDelimiter withoutDelimiter
  simp only [hsize, hfeed]
  split
  · next hlf =>
    obtain ⟨hlt, hfront⟩ := laid_dropLast (by decide) h hlf
    have hreturn : (decide (1 < stop - start) &&
        byteAt (contents.extract start stop) (stop - start - 2) == 0x0d) =
          line.dropLast.getLast?.any (·.2 == .char '\r') := by
      have hroom : 1 < stop - start ↔ start < stop - 1 := by omega
      have hplace : stop - start - 2 = stop - 1 - start - 1 := by omega
      rw [decide_eq_decide.mpr hroom, hplace]
      exact endsWith_eq (by decide) (by decide) hfront (Nat.sub_le _ _) hstop
    simp only [hreturn]
    split
    · next hcr =>
      obtain ⟨hlt', hrow⟩ := laid_dropLast (by decide) hfront hcr
      exact ⟨stop - 1 - 1, hrow, hcut (by omega) (by omega)⟩
    · exact ⟨stop - 1, hfront, hcut (by omega) (by omega)⟩
  · exact ⟨stop, h, rfl⟩

/-- The characters of a line are read, without its delimiter, as they are within the whole text. -/
theorem lineChars_eq {cv : CodeView} {contents : ByteArray} {line : List (Nat × Piece)} {k : Nat}
    (hbuffer : cv.buffer = Buffer.ofBytes contents)
    (hline : (pieceLines contents)[k]? = some line) :
    cv.lineChars k = .ok ((withoutDelimiter line).map (·.2.toChar)) := by
  obtain ⟨start, stop, hstart, hlaid, hread⟩ := Buffer.line_ofBytes hline
  obtain ⟨stop', hrow, htrim⟩ := trimDelimiter_extract hlaid hstart.le_size
  rw [lineChars, hbuffer, hread]
  change Except.ok (Text.chars (trimDelimiter (contents.extract start stop))).toList = _
  rw [htrim, hrow.chars_extract hstart.le_size]

/-! ### Following the matches of a line -/

/-- The matches the cursor of a line has not passed when it comes to a column, having come to all
columns in front of it. -/
def cursorAt (ms : List Match) : (col : Nat) → List Match
  | 0 => ms.dropWhile (·.last < 0)
  | col + 1 => (cursorAt ms col).dropWhile (·.last < col + 1)

private theorem cursorAt_eq (ms : List Match) (col : Nat) :
    cursorAt ms col = ms.dropWhile (·.last < col) := by
  induction col with
  | zero => rfl
  | succ col ih => rw [cursorAt, ih, dropWhile_dropWhile ms (Nat.le_succ col)]

/-- The cursor of a line agrees with the lookup of a match at every column. -/
theorem head?_cursorAt_eq_matchAt? {h : Highlighter} {line : Int}
    (horder : InOrder (h.matchesOf line).toList) (col : Nat) :
    (cursorAt (h.matchesOf line).toList col).head?.filter (·.first ≤ col) =
      h.matchAt? line col := by
  rw [cursorAt_eq, head?_dropWhile_eq_covering, h.matchAt?_eq horder]

private theorem styleAt_dropWhile (cv : CodeView) (ms : List Match) (col : Nat) :
    cv.styleAt (ColorScheme.styleOf cv.highlighter.scheme .default) col
        (ms.dropWhile (·.last < col)) =
      ColorScheme.styleOf cv.highlighter.scheme (Highlighter.groupAt ms col) := by
  have hhead := head?_dropWhile_eq_covering ms col
  unfold Highlighter.groupAt Highlighter.markAt
  rw [← hhead]
  cases ms.dropWhile (·.last < col) with
  | nil => rfl
  | cons m rest =>
    by_cases hm : m.first ≤ col
    · simp [styleAt, hm, Option.filter, Highlighter.styleOf]
    · simp [styleAt, hm, Option.filter]

/-- What characters put on row `y`, each drawn in its style, if `cells` cells of their line come
before them. -/
def styledPuts (cv : CodeView) (left right y : Int) :
    (cells : Int) → List (Char × Style) → List Put
  | _, [] => []
  | cells, (c, style) :: rest =>
    let here := cv.charPuts left right (wrap (left + cells - cv.scrollX)) y style c
    let cells := wrap (cells + cv.charWidth c)
    if right ≤ wrap (left + cells - cv.scrollX) then here
    else here ++ styledPuts cv left right y cells rest

/-- Drawing a line gives every character the style of its group among the matches. -/
theorem linePuts_eq_styledPuts (cv : CodeView) (left right y : Int) {ms₀ ms : List Match}
    {col : Nat} (hms : ms.dropWhile (·.last < col) = ms₀.dropWhile (·.last < col))
    (cells : Int) {chars : List (Char × Style)}
    (hchars : ∀ {j : Nat} {cell : Char × Style}, chars[j]? = some cell →
      cell.2 = ColorScheme.styleOf cv.highlighter.scheme (Highlighter.groupAt ms₀ (col + j))) :
    cv.linePuts left right y (ColorScheme.styleOf cv.highlighter.scheme .default) ms cells col
        (chars.map Prod.fst) =
      cv.styledPuts left right y cells chars := by
  induction chars generalizing ms col cells with
  | nil => rfl
  | cons cell rest ih =>
    obtain ⟨c, style⟩ := cell
    have hstyle : style = ColorScheme.styleOf cv.highlighter.scheme (Highlighter.groupAt ms₀ col) :=
      hchars (j := 0) rfl
    have hnext : (ms.dropWhile (·.last < col)).dropWhile (·.last < col + 1) =
        ms₀.dropWhile (·.last < col + 1) := by
      rw [hms, dropWhile_dropWhile ms₀ (Nat.le_succ col)]
    have hrest := ih hnext (wrap (cells + cv.charWidth c)) fun {j cell} hcell ↦ by
      have hlater := hchars (j := j + 1) hcell
      rwa [← Nat.add_assoc, Nat.add_right_comm] at hlater
    rw [hms] at hrest
    rw [List.map_cons, linePuts, styledPuts]
    simp only [hms, hrest, styleAt_dropWhile, ← hstyle]

end CodeView

/-! ### Bringing a view up to date -/

namespace Highlighter

/-- Bringing the highlighting up to date changes what is known of the buffer only. -/
theorem updateInvalidated_keeps (h : Highlighter) :
    h.updateInvalidated.1.buffer = h.buffer ∧ h.updateInvalidated.1.language = h.language ∧
      h.updateInvalidated.1.scheme = h.scheme ∧ h.updateInvalidated.1.maxDepth = h.maxDepth := by
  unfold updateInvalidated update
  split
  · exact ⟨rfl, rfl, rfl, rfl⟩
  · split <;> exact ⟨rfl, rfl, rfl, rfl⟩

private theorem update_congr {h h' : Highlighter} (hbuffer : h.buffer = h'.buffer)
    (hlanguage : h.language = h'.language) (hdepth : h.maxDepth = h'.maxDepth) :
    h.update.1.tokens = h'.update.1.tokens ∧
      h.update.1.lineMatches = h'.update.1.lineMatches := by
  unfold update
  rw [hbuffer, hlanguage, hdepth]
  split <;> exact ⟨rfl, rfl⟩

private theorem update_tokens {h : Highlighter} {contents : ByteArray}
    (hbuffer : h.buffer = Buffer.ofBytes contents) :
    h.update.1.tokens.toList = h.scanned contents := by
  have hbytes : h.buffer.bytes = contents := by rw [hbuffer, Buffer.bytes_ofBytes]
  unfold update scanned
  rw [hbytes]
  split
  · next hl => rw [hl]
  · next l hl => rw [hl]

private theorem Highlights.congr {h h' : Highlighter} {contents : ByteArray}
    (hh : h.Highlights contents)
    (htokens : h'.tokens = h.tokens) (hmatches : h'.lineMatches = h.lineMatches)
    (hlanguage : h'.language = h.language) : h'.Highlights contents := by
  constructor
  · rw [htokens]
    exact hh.tiles
  · rw [hmatches]
    exact hh.inOrder
  · rw [htokens, hmatches, hlanguage]
    exact hh.marks

/-- The matches of a line give its characters the styles of the tokens that hold them. -/
theorem Highlights.style_eq {h : Highlighter} {contents : ByteArray} (hh : h.Highlights contents)
    (htokens : h.tokens.toList = h.scanned contents) {line j : Nat} {cell : Char × Style}
    (hcell : (h.styledLine contents line)[j]? = some cell) :
    cell.2 = ColorScheme.styleOf h.scheme (groupAt (noted h.lineMatches line) j) := by
  unfold styledLine at hcell
  split at hcell
  · cases hcell
  · next ps hps =>
    rw [List.getElem?_map] at hcell
    obtain ⟨p, hp, rfl⟩ := Option.map_eq_some_iff.mp hcell
    have hon : ps[j]? = some p := by
      obtain ⟨rest, hrest⟩ := Text.withoutDelimiter_prefix ps
      rw [← hrest]
      exact List.getElem?_append_left (List.getElem?_eq_some_iff.mp hp).1 ▸ hp
    have hfeed : feedPiece p = false :=
      Text.feedPiece_eq_false (List.mem_of_getElem? hps) (List.mem_of_getElem? hp)
    rw [groupAt, hh.markAt_line hps hon hfeed, htokens]
    unfold styleOfPiece markOfPiece
    cases (h.scanned contents).find? (holdsPiece p) with
    | none => rfl
    | some t => rw [Option.bind_some, group_markOf]

end Highlighter

namespace CodeView

/-! ### Views of a text -/

/-- A view shows a text: its buffer holds the text, and what its highlighter knows, unless a scan is
asked for, is what a scan of the text yields. -/
structure Shows (cv : CodeView) (contents : ByteArray) : Prop where
  buffer : cv.buffer = Buffer.ofBytes contents
  scanned : cv.highlighter.buffer = cv.buffer
  upToDate : cv.highlighter.valid = true →
    cv.highlighter.tokens = cv.highlighter.update.1.tokens ∧
      cv.highlighter.lineMatches = cv.highlighter.update.1.lineMatches

/-- A new view shows its text. -/
theorem shows_new (path : String) (contents : ByteArray) (language : Option Language) :
    (new path contents language).Shows contents :=
  ⟨rfl, rfl, fun h ↦ Bool.noConfusion h⟩

/-- A view that is given another text shows it. -/
theorem shows_setContents (cv : CodeView) (contents : ByteArray) (language : Option Language) :
    (cv.setContents contents language).Shows contents :=
  ⟨rfl, rfl, fun h ↦ Bool.noConfusion h⟩

variable {cv cv' : CodeView} {contents : ByteArray}

/-- Highlighting changes nothing of a view but what its highlighter knows. -/
theorem highlight_eq_ok (h : cv.highlight = .ok cv') :
    cv' = { cv with highlighter := cv.highlighter.updateInvalidated.1 } := by
  unfold highlight at h
  split at h
  · next h' hupdate =>
    rw [hupdate]
    exact (Except.ok.inj h).symm
  · cases h

/-- Bringing the highlighting up to date gives the highlighter the tokens of the text and their
matches, and leaves the view with its text. -/
theorem Shows.updated (hshows : cv.Shows contents) :
    { cv with highlighter := cv.highlighter.updateInvalidated.1 }.Shows contents ∧
      cv.highlighter.updateInvalidated.1.Highlights contents ∧
      cv.highlighter.updateInvalidated.1.tokens.toList = cv.highlighter.scanned contents := by
  have hbuffer : cv.highlighter.buffer = Buffer.ofBytes contents :=
    hshows.scanned.trans hshows.buffer
  obtain ⟨hkept, hlanguage, -, hdepth⟩ := cv.highlighter.updateInvalidated_keeps
  have hknown : cv.highlighter.updateInvalidated.1.tokens = cv.highlighter.update.1.tokens ∧
      cv.highlighter.updateInvalidated.1.lineMatches = cv.highlighter.update.1.lineMatches := by
    unfold Highlighter.updateInvalidated
    split
    · next hvalid => exact hshows.upToDate hvalid
    · exact ⟨rfl, rfl⟩
  have hagain := Highlighter.update_congr hkept hlanguage hdepth
  have hfresh : cv.highlighter.update.1.language = cv.highlighter.language := by
    unfold Highlighter.update
    split <;> rfl
  refine ⟨⟨hshows.buffer, hkept.trans hshows.scanned, fun _ ↦ ?_⟩, ?_, ?_⟩
  · exact ⟨hknown.1.trans hagain.1.symm, hknown.2.trans hagain.2.symm⟩
  · exact (Highlighter.update_highlights hbuffer).congr hknown.1 hknown.2
      (hlanguage.trans hfresh.symm)
  · rw [hknown.1, Highlighter.update_tokens hbuffer]

/-- A view that is highlighted shows the same text and knows the tokens of a scan of it. -/
theorem Shows.highlighted (hshows : cv.Shows contents) (h : cv.highlight = .ok cv') :
    cv'.Shows contents ∧ cv'.highlighter.Highlights contents ∧
      cv'.highlighter.tokens.toList = cv'.highlighter.scanned contents := by
  obtain ⟨hshown, hhighlights, htokens⟩ := hshows.updated
  obtain ⟨-, hlanguage, -, hdepth⟩ := cv.highlighter.updateInvalidated_keeps
  rw [highlight_eq_ok h]
  refine ⟨hshown, hhighlights, ?_⟩
  simp only [htokens, Highlighter.scanned, hlanguage, hdepth]

/-- A fault that a scan meets leaves a view with its text, and with the tokens in front of it. -/
theorem Shows.afterFault (hshows : cv.Shows contents) : cv.afterFault.Shows contents := by
  have hupdated := hshows.updated.1
  unfold CodeView.afterFault
  split
  · exact hshows
  · next h fault hupdate =>
    rw [hupdate] at hupdated
    exact hupdated

/-! ### Rows and lines -/

/-- The rows of a view that is not scrolled above its first line show lines one after the other. -/
theorem exists_line_of_row (hscroll : 0 ≤ cv.scrollY) {row : Nat}
    (hrow : row + cv.scrollY < 9223372036854775808) :
    ∃ line : Nat, line = row + cv.scrollY ∧
      wrap (cv.bounds.y + row + cv.scrollY - cv.bounds.y) = line := by
  obtain ⟨first, hfirst⟩ := Int.eq_ofNat_of_zero_le hscroll
  refine ⟨row + first, by omega, ?_⟩
  have hsum : cv.bounds.y + row + cv.scrollY - cv.bounds.y = ((row + first : Nat) : Int) := by omega
  rw [hsum, wrap, Int.bmod_eq_of_le] <;> omega

/-! ### Drawing -/

/-- What the characters of a line put on row `y` if each is drawn in the style of the token that
holds it. -/
def scannedPuts (cv : CodeView) (contents : ByteArray) (line : Nat) (y : Int) : List Put :=
  cv.styledPuts (wrap (cv.bounds.x + cv.columnWidth)) (wrap (cv.bounds.x + cv.bounds.width)) y 0
    (cv.highlighter.styledLine contents line)

/-- A view that is up to date draws a line as it was scanned. -/
theorem Shows.textLinePuts (hshows : cv.Shows contents)
    (hhighlights : cv.highlighter.Highlights contents)
    (htokens : cv.highlighter.tokens.toList = cv.highlighter.scanned contents) {line : Nat}
    (hline : line < cv.buffer.lines) (y : Int) :
    cv.textLinePuts (ColorScheme.styleOf cv.highlighter.scheme .default) line y =
      .ok (cv.scannedPuts contents line y) := by
  rw [hshows.buffer, Buffer.lines_ofBytes] at hline
  have hpieces := List.getElem?_eq_getElem hline
  generalize (pieceLines contents)[line] = ps at hpieces
  have hmatches : (cv.highlighter.matchesOf line).toList =
      Highlighter.noted cv.highlighter.lineMatches line := by
    rw [Highlighter.matchesOf, if_neg (Int.not_lt.mpr (Int.natCast_nonneg line)),
      Int.toNat_natCast]
    rfl
  have hchars : (withoutDelimiter ps).map (·.2.toChar) =
      (cv.highlighter.styledLine contents line).map Prod.fst := by
    rw [Highlighter.styledLine, hpieces, List.map_map]
    rfl
  have hstyles {j : Nat} {cell : Char × Style}
      (hcell : (cv.highlighter.styledLine contents line)[j]? = some cell) :
      cell.2 = ColorScheme.styleOf cv.highlighter.scheme
        (Highlighter.groupAt (Highlighter.noted cv.highlighter.lineMatches line) (0 + j)) := by
    rw [Nat.zero_add]
    exact hhighlights.style_eq htokens hcell
  have hdrawn := cv.linePuts_eq_styledPuts (wrap (cv.bounds.x + cv.columnWidth))
    (wrap (cv.bounds.x + cv.bounds.width)) y rfl 0 hstyles
  rw [CodeView.textLinePuts, lineChars_eq hshows.buffer hpieces, hmatches, hchars, scannedPuts,
    ← hdrawn]
  rfl

private theorem styledPuts_withHighlighter (cv : CodeView) (h : Highlighter) (left right y : Int)
    (cells : Int) (chars : List (Char × Style)) :
    { cv with highlighter := h }.styledPuts left right y cells chars =
      cv.styledPuts left right y cells chars := by
  induction chars generalizing cells with
  | nil => rfl
  | cons cell rest ih =>
    rw [styledPuts, styledPuts, ih]
    rfl

/-- Highlighting does not change what a line is to look like. -/
theorem scannedPuts_highlight (h : cv.highlight = .ok cv') (line : Nat) (y : Int) :
    cv'.scannedPuts contents line y = cv.scannedPuts contents line y := by
  obtain ⟨-, hlanguage, hscheme, hdepth⟩ := cv.highlighter.updateInvalidated_keeps
  rw [highlight_eq_ok h]
  have hline : cv.highlighter.updateInvalidated.1.styledLine contents line =
      cv.highlighter.styledLine contents line := by
    unfold Highlighter.styledLine Highlighter.styleOfPiece Highlighter.scanned
    rw [hlanguage, hscheme, hdepth]
  unfold scannedPuts
  rw [hline]
  exact styledPuts_withHighlighter cv _ _ _ y 0 _

private theorem length_lt_columnWidth (hcolumn : 0 < cv.columnWidth) {line : Nat}
    (hline : line < cv.buffer.lines) :
    ((toString ((line : Int) + 1)).length : Int) < cv.columnWidth := by
  have hdigits : (toString ((line : Int) + 1)).length ≤ (toString cv.buffer.lines).length := by
    change (line + 1).repr.length ≤ cv.buffer.lines.repr.length
    rw [Nat.length_repr_le_iff Nat.length_repr_pos]
    exact Nat.lt_of_le_of_lt hline
      ((Nat.length_repr_le_iff Nat.length_repr_pos).mp (Nat.le_refl _))
  unfold columnWidth at hcolumn ⊢
  split
  · omega
  · next hnumbers =>
    rw [if_neg hnumbers] at hcolumn
    omega

/-- The number of a row that shows a line, or nothing in a row behind the last one. -/
def numberOf (cv : CodeView) (line : Nat) : String :=
  if line < cv.buffer.lines then toString ((line : Int) + 1) else ""

/-- Characters fill a column: a number, aligned to the right by blanks, and a bar. -/
structure FillColumn (chars : List Char) (column : Int) (number : String) : Prop where
  length_eq : (chars.length : Int) = max column 0
  mem : ∀ c ∈ chars, c = ' ' ∨ c ∈ number.toList ∨ c = '│'

private theorem exists_number {front : List Put} {column x y : Int} {number : String}
    {style : Style}
    (h : 0 < column → number.length < column) :
    ∃ chars, (if 0 < column then do
        let chars ← numberText column number
        let puts ← pure (textPuts x y style chars)
        pure (front ++ puts)
      else do
        let puts ← pure []
        pure (front ++ puts)) = (.ok (front ++ textPuts x y style chars) :
          Except Fault (List Put)) ∧ FillColumn chars column number := by
  split
  · next hcolumn =>
    have hshort := h hcolumn
    have hroom : ¬ (column - number.length - 1 < 0) := by omega
    simp only [numberText, if_neg hroom]
    refine ⟨_, rfl, ?_, fun c hc ↦ ?_⟩
    · simp only [List.length_append, List.length_replicate, List.length_singleton,
        String.length_toList]
      omega
    · rcases List.mem_append.mp hc with hc | hc
      · rcases List.mem_append.mp hc with hc | hc
        · exact .inl (List.eq_of_mem_replicate hc)
        · exact .inr (.inl hc)
      · exact .inr (.inr (List.mem_singleton.mp hc))
  · next hcolumn =>
    refine ⟨[], rfl, ?_, fun c hc ↦ nomatch hc⟩
    rw [Int.max_eq_right (Int.not_lt.mp hcolumn)]
    rfl

/-- Behind its background and in front of its number a row has the text of its line, if there is
one. The number fills its column. -/
theorem rowPuts_numbered {line : Nat} {y : Int} {text : List Put}
    (hrow : wrap (y + cv.scrollY - cv.bounds.y) = line)
    (htext : (if line < cv.buffer.lines then
        cv.textLinePuts (ColorScheme.styleOf cv.highlighter.scheme .default) line y
      else .ok []) = .ok text) :
    ∃ number, cv.rowPuts y = .ok
      (rectPuts (wrap (cv.bounds.x + cv.columnWidth)) y
          (wrap (cv.bounds.width - cv.columnWidth)) 1 ' '
          (ColorScheme.styleOf cv.highlighter.scheme .default) ++
        text ++
        textPuts cv.bounds.x y (ColorScheme.styleOf cv.highlighter.scheme .column) number) ∧
      FillColumn number cv.columnWidth (cv.numberOf line) := by
  unfold rowPuts numberOf
  simp only [hrow, Int.ofNat_lt, decide_eq_true_eq]
  by_cases hline : line < cv.buffer.lines
  · rw [if_pos hline] at htext
    rw [if_pos hline, if_pos hline, htext]
    exact exists_number (fun hcolumn ↦ length_lt_columnWidth hcolumn hline)
  · rw [if_neg hline] at htext
    cases htext
    rw [if_neg hline, if_neg hline]
    exact exists_number id

/-- Behind its background and in front of its number a row has the text of its line, if there is
one. -/
theorem rowPuts_eq {line : Nat} {y : Int} {text : List Put}
    (hrow : wrap (y + cv.scrollY - cv.bounds.y) = line)
    (htext : (if line < cv.buffer.lines then
        cv.textLinePuts (ColorScheme.styleOf cv.highlighter.scheme .default) line y
      else .ok []) = .ok text) :
    ∃ number, cv.rowPuts y = .ok
      (rectPuts (wrap (cv.bounds.x + cv.columnWidth)) y
          (wrap (cv.bounds.width - cv.columnWidth)) 1 ' '
          (ColorScheme.styleOf cv.highlighter.scheme .default) ++
        text ++
        textPuts cv.bounds.x y (ColorScheme.styleOf cv.highlighter.scheme .column) number) :=
  (rowPuts_numbered hrow htext).imp fun _ h ↦ h.1

/-- What is drawn is what was scanned. A view that shows a text is drawn once its highlighting is
up to date, whatever its language, its colours, its scroll position and its bounds are. The
characters of each line of the text are then drawn in the style of the token of the scan that holds
them, and in that of plain text if none does; a row has nothing but these characters between its
background and its number. The cursor that follows the matches of a line while it is drawn agrees
with the lookup of a match at every column. -/
theorem drawn_as_scanned (hshows : cv.Shows contents) (hhighlight : cv.highlight = .ok cv') :
    (∀ s, cv.draw s = (do
      let ps ← cv'.puts
      let s ← cv'.showCursor (s.putAll ps)
      return (cv', s))) ∧
    (∀ (line : Nat) (y : Int), line < cv'.buffer.lines →
      cv'.textLinePuts (ColorScheme.styleOf cv'.highlighter.scheme .default) line y =
        .ok (cv.scannedPuts contents line y)) ∧
    (∀ (line : Nat) (y : Int), wrap (y + cv'.scrollY - cv'.bounds.y) = line →
      ∃ number, cv'.rowPuts y = .ok
        (rectPuts (wrap (cv'.bounds.x + cv'.columnWidth)) y
            (wrap (cv'.bounds.width - cv'.columnWidth)) 1 ' '
            (ColorScheme.styleOf cv'.highlighter.scheme .default) ++
          cv.scannedPuts contents line y ++
          textPuts cv'.bounds.x y (ColorScheme.styleOf cv'.highlighter.scheme .column) number)) ∧
    ∀ (line : Int) (col : Nat),
      (cursorAt (cv'.highlighter.matchesOf line).toList col).head?.filter (·.first ≤ col) =
        cv'.highlighter.matchAt? line col := by
  obtain ⟨hshown, hhighlights, hscanned⟩ := hshows.highlighted hhighlight
  have hlines (line : Nat) (y : Int) (hline : line < cv'.buffer.lines) :
      cv'.textLinePuts (ColorScheme.styleOf cv'.highlighter.scheme .default) line y =
        .ok (cv.scannedPuts contents line y) := by
    rw [hshown.textLinePuts hhighlights hscanned hline, scannedPuts_highlight hhighlight]
  refine ⟨fun s ↦ ?_, hlines, fun line y hrow ↦ rowPuts_eq hrow ?_, fun line col ↦ ?_⟩
  · rw [draw, hhighlight]
    rfl
  · split
    · next hline => exact hlines line y hline
    · next hline =>
      have hnone : (pieceLines contents)[line]? = none := by
        rw [hshown.buffer, Buffer.lines_ofBytes] at hline
        exact List.getElem?_eq_none (Nat.not_lt.mp hline)
      rw [scannedPuts, Highlighter.styledLine, hnone]
      rfl
  · apply head?_cursorAt_eq_matchAt?
    unfold Highlighter.matchesOf
    split
    · exact ⟨by simp, List.Pairwise.nil⟩
    · exact hhighlights.inOrder line.toNat

/-- A view of ten columns, three of them for the numbers, that is given another text. -/
def tenColumns (g : CompiledGrammar) : CodeView :=
  { new "a" ByteArray.empty none with bounds := ⟨0, 0, 10, 2⟩ }.setContents "!\r\nx".toUTF8
    (some (Language.ofGrammar g))

/-- A character that no rule matches is drawn as such, and a carriage return in front of a line feed
not at all. -/
theorem drawn_as_scanned_nestedBlocks :
    ∃ g cv, compile nestedBlocks = .ok g ∧ (tenColumns g).highlight = .ok cv ∧
      cv.textLinePuts (ColorScheme.styleOf cv.highlighter.scheme .default) (0 : Nat) 0 =
        .ok ((tenColumns g).scannedPuts "!\r\nx".toUTF8 0 0) ∧
      (tenColumns g).scannedPuts "!\r\nx".toUTF8 0 0 = [⟨3, 0, '!', ⟨"white", "maroon"⟩⟩] := by
  obtain ⟨g, hg, htest⟩ := exists_compiled nestedBlocks
    (fun g ↦ (tenColumns g).highlight.toBool &&
      (tenColumns g).scannedPuts "!\r\nx".toUTF8 0 0 == [⟨3, 0, '!', ⟨"white", "maroon"⟩⟩])
    (by decide +kernel)
  rw [Bool.and_eq_true, beq_iff_eq] at htest
  obtain ⟨hok, hputs⟩ := htest
  cases hcv : (tenColumns g).highlight with
  | error e =>
    rw [hcv] at hok
    cases hok
  | ok cv =>
    have hshows : (tenColumns g).Shows "!\r\nx".toUTF8 := shows_setContents _ _ _
    have hlines : 0 < cv.buffer.lines := Nat.succ_pos _
    exact ⟨g, cv, hg, hcv, (drawn_as_scanned hshows hcv).2.1 0 0 hlines, hputs⟩

end CodeView

end CodeViewer
