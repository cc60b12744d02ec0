import CodeViewer.Proofs.Highlight.Matches

/-!
# Lookups agree

The tokens of a scan are looked up by offset, its matches by line and column. Both find the token
that holds a character, and neither finds anything where no token holds one.
-/

namespace CodeViewer.Highlighter

open Text (Piece Laid Boundary pieceAt)

variable {h : Highlighter} {contents : ByteArray}

/-! ### Tokens by offset -/

/-- A token is found at the offsets of its bytes. -/
theorem tokenAt?_eq_some_iff {stop : Nat} (htiles : Tiles contents 0 h.tokens.toList stop)
    {pos : Int} {t : Token} :
    h.tokenAt? pos = some t ↔ t ∈ h.tokens ∧ t.start ≤ pos ∧ pos < t.stop := by
  have hmono : h.tokens.toList.Pairwise fun t t' ↦
      decide (pos < t.stop) → decide (pos < t'.stop) := by
    refine htiles.pairwise.imp_of_mem fun {t t'} _ ht' hle hpos ↦ ?_
    have hlt := (htiles.mem ht').2.1
    simp only [decide_eq_true_eq] at hpos ⊢
    omega
  rw [tokenAt?, bisectFind?_eq_find? hmono, Option.filter_eq_some_iff, decide_eq_true_eq,
    ← Array.mem_toList_iff]
  constructor
  · rintro ⟨hfound, hstart⟩
    have hstop := List.find?_some hfound
    exact ⟨List.mem_of_find?_eq_some hfound, hstart, of_decide_eq_true hstop⟩
  · rintro ⟨ht, hstart, hstop⟩
    refine ⟨?_, hstart⟩
    obtain ⟨front, back, hsplit⟩ := List.append_of_mem ht
    have hapart := htiles.pairwise
    rw [hsplit, List.pairwise_append] at hapart
    obtain ⟨-, -, hfront⟩ := hapart
    rw [List.find?_eq_some_iff_append]
    refine ⟨decide_eq_true hstop, front, back, hsplit, fun t' ht' ↦ ?_⟩
    have hle := hfront t' ht' t List.mem_cons_self
    simp only [Bool.not_eq_true', decide_eq_false_iff_not]
    omega

/-- Tokens are found exactly up to the end of the last of them. -/
theorem isSome_tokenAt?_iff {stop : Nat} (htiles : Tiles contents 0 h.tokens.toList stop)
    (pos : Int) :
    (h.tokenAt? pos).isSome ↔ 0 ≤ pos ∧ pos < ((h.tokens.back?.map Token.stop).getD 0 : Nat) := by
  have hend : (h.tokens.back?.map Token.stop).getD 0 = stop := by
    rw [htiles.stop_eq, Array.getLast?_toList]
  rw [hend, Option.isSome_iff_exists]
  constructor
  · rintro ⟨t, ht⟩
    obtain ⟨hmem, hstart, hstop⟩ := (tokenAt?_eq_some_iff htiles).mp ht
    have hle := (htiles.mem (Array.mem_toList_iff.mpr hmem)).2.2.1
    omega
  · rintro ⟨hpos, hlt⟩
    obtain ⟨o, rfl⟩ := Int.eq_ofNat_of_zero_le hpos
    obtain ⟨t, ht, hstart, hstop⟩ := htiles.exists_holding (Nat.zero_le o) (Int.ofNat_lt.mp hlt)
    exact ⟨t, (tokenAt?_eq_some_iff htiles).mpr
      ⟨Array.mem_toList_iff.mp ht, Int.ofNat_le.mpr hstart, Int.ofNat_lt.mpr hstop⟩⟩

private theorem find?_holdsPiece {stop : Nat} (htiles : Tiles contents 0 h.tokens.toList stop)
    {o : Nat}
    (ho : Boundary contents o) :
    h.tokens.toList.find? (holdsPiece (o, pieceAt contents o)) = h.tokenAt? o := by
  have hpos := (pieceAt contents o).size_pos
  ext t
  rw [tokenAt?_eq_some_iff htiles]
  constructor
  · intro hfound
    have hholds := List.find?_some hfound
    simp only [holdsPiece, Bool.and_eq_true, decide_eq_true_eq] at hholds
    exact ⟨Array.mem_toList_iff.mp (List.mem_of_find?_eq_some hfound), by omega, by omega⟩
  · rintro ⟨ht, hstart, hstop⟩
    rw [← Array.mem_toList_iff] at ht
    have hholds : holdsPiece (o, pieceAt contents o) t := by
      have hnext := ho.next_le (htiles.mem ht).2.2.2.2 (Int.ofNat_lt.mp hstop)
      simp only [holdsPiece, Bool.and_eq_true, decide_eq_true_eq]
      omega
    cases hfound : h.tokens.toList.find? (holdsPiece (o, pieceAt contents o)) with
    | none => exact absurd hholds (List.find?_eq_none.mp hfound t ht)
    | some t' =>
      rw [eq_of_holdsPiece htiles ht (List.mem_of_find?_eq_some hfound) hholds
        (List.find?_some hfound)]

/-! ### Matches by line and column -/

/-- A character other than a line feed starts at an offset. -/
def StartsCharacter (contents : ByteArray) (o : Nat) : Prop :=
  Boundary contents o ∧ o < contents.size ∧ pieceAt contents o ≠ .char '\n'

/-- The line and column of an offset, reached by counting the characters in front of it. -/
def placeOf (contents : ByteArray) (o : Nat) : Nat × Nat := advance (contents.extract 0 o) (0, 0)

private theorem givenAt_behind_front {α : Type} (front : List (Char × α)) {c : Char} (hc : c ≠ '\n')
    (a : α) (back : List (Char × α)) (place : Nat × Nat) :
    givenAt place (front ++ (c, a) :: back)
      ((front.map Prod.fst).foldl Buffer.advancePosition place) = some a := by
  rw [givenAt_append, givenAt_eq_none_of_le (.inr ⟨rfl, Nat.le_refl _⟩), Option.none_or,
    givenAt_of_ne hc, if_pos rfl]

private theorem exists_front_of_givenAt {α : Type} {cells : List (Char × α)} {place p : Nat × Nat}
    {a : α}
    (h : givenAt place cells p = some a) :
    ∃ front c back, cells = front ++ (c, a) :: back ∧ c ≠ '\n' ∧
      (front.map Prod.fst).foldl Buffer.advancePosition place = p := by
  induction cells generalizing place with
  | nil => cases h
  | cons cell rest ih =>
    obtain ⟨c, b⟩ := cell
    unfold givenAt at h
    split at h
    · next hhere =>
      cases h
      exact ⟨[], c, rest, rfl, hhere.1, hhere.2⟩
    · obtain ⟨front, d, back, rfl, hd, hp⟩ := ih h
      exact ⟨(c, b) :: front, d, back, rfl, hd, hp⟩

private theorem exists_front {o : Nat} (ho : Boundary contents o) (hlt : o < contents.size) :
    ∃ front back, (Text.pieces contents).toList = front ++ (o, pieceAt contents o) :: back ∧
      (front.map (·.2.toChar)).foldl Buffer.advancePosition (0, 0) = placeOf contents o := by
  obtain ⟨front, rest, hsplit, hfront, hrest⟩ := (Text.pieces_laid contents).split ho
    (Nat.zero_le o) ho.le_size .start
  have hplace : (front.map (·.2.toChar)).foldl Buffer.advancePosition (0, 0) =
      placeOf contents o := by
    rw [placeOf, advance_eq, hfront.chars_extract (Nat.zero_le _)]
  cases rest with
  | nil =>
    obtain rfl : o = contents.size := hrest
    exact absurd hlt (Nat.lt_irrefl _)
  | cons p back =>
    obtain ⟨hp, -, hpiece, -⟩ := hrest
    obtain rfl : p = (o, pieceAt contents o) := Prod.ext hp hpiece
    exact ⟨front, back, hsplit, hplace⟩

/-- A match is looked up as it is noted. -/
theorem Highlights.matchAt? (hh : h.Highlights contents) (line col : Nat) :
    (h.matchAt? line col).map (fun m ↦ (m.group, m.cls)) =
      (givenAt (0, 0) (cellsOf h.language h.tokens.toList (Text.pieces contents).toList)
        (line, col)).join := by
  have hmatches : (h.matchesOf line).toList = noted h.lineMatches line := by
    rw [matchesOf, if_neg (Int.not_lt.mpr (Int.natCast_nonneg line)), Int.toNat_natCast]
    rfl
  rw [matchAt?_eq (hmatches ▸ hh.inOrder line), hmatches]
  exact hh.marks line col

private theorem matchAt?_placeOf (hh : h.Highlights contents) {o : Nat}
    (ho : StartsCharacter contents o) :
    (h.matchAt? (placeOf contents o).1 (placeOf contents o).2).map (fun m ↦ (m.group, m.cls)) =
      (h.tokenAt? o).bind fun t ↦ markOf h.language t.cls := by
  obtain ⟨hbound, hlt, hfeed⟩ := ho
  obtain ⟨stop, htiles⟩ := hh.tiles
  obtain ⟨front, back, hsplit, hplace⟩ := exists_front hbound hlt
  have hchar : (pieceAt contents o).toChar ≠ '\n' := by
    rwa [ne_eq, Piece.toChar_eq_iff (by decide)]
  have hgiven := givenAt_behind_front (cellsOf h.language h.tokens.toList front) hchar
    (markOfPiece h.language h.tokens.toList (o, pieceAt contents o))
    (cellsOf h.language h.tokens.toList back) (0, 0)
  have hfront : (cellsOf h.language h.tokens.toList front).map Prod.fst =
      front.map (·.2.toChar) := by
    rw [cellsOf, List.map_map]
    rfl
  rw [hfront, hplace] at hgiven
  rw [hh.matchAt?, hsplit, cellsOf, List.map_append, List.map_cons]
  rw [cellsOf, cellsOf] at hgiven
  rw [hgiven, Option.join_some, markOfPiece, find?_holdsPiece htiles hbound]

private theorem exists_startsCharacter {language : Option Language} {tokens : List Token}
    {p : Nat × Nat} {mark : Option (Group × Class)}
    (h : givenAt (0, 0) (cellsOf language tokens (Text.pieces contents).toList) p = some mark) :
    ∃ o, StartsCharacter contents o ∧ placeOf contents o = p := by
  obtain ⟨front, c, back, hcells, hc, hp⟩ := exists_front_of_givenAt h
  obtain ⟨before, rest, hsplit, rfl, hrest⟩ := List.map_eq_append_iff.mp hcells
  obtain ⟨q, after, rfl, hq, -⟩ := List.map_eq_cons_iff.mp hrest
  obtain ⟨rfl, -⟩ := Prod.ext_iff.mp hq
  have hlaid := Text.pieces_laid contents
  rw [hsplit, Laid.append_iff] at hlaid
  obtain ⟨o, hbefore, rfl, hlt, hpiece, -⟩ := hlaid
  refine ⟨q.1, ⟨hbefore.boundary .start, hlt, ?_⟩, ?_⟩
  · intro hfeed
    rw [← hpiece] at hfeed
    exact hc ((Piece.toChar_eq_iff (by decide)).mpr hfeed)
  · rw [List.map_map] at hp
    rw [placeOf, advance_eq, hbefore.chars_extract (Nat.zero_le _)]
    exact hp

private theorem matchAt?_eq_none {line col : Int} (hneg : line < 0 ∨ col < 0) :
    h.matchAt? line col = none := by
  rw [Highlighter.matchAt?]
  rcases hneg with hline | hcol
  · rw [matchesOf, if_pos hline]
    rfl
  · rw [Option.filter_eq_none_iff]
    intro m _ hm
    have hfirst := of_decide_eq_true hm
    omega

/-- Lookups agree once a text is scanned, as far as the scan has come. Matches stand on each line
from left to right without touching. Exactly the offsets up to the end of the last token have a
token, which is the only one that holds them. At the line and column of every character other than
a line feed there is a match of the group and the class of the token that holds the character,
unless no token does or the group is that of plain text; there are no other matches. -/
theorem lookups_agree (hbuffer : h.buffer = Buffer.ofBytes contents) :
    (∀ line, InOrder (h.update.1.matchesOf line).toList) ∧
    (∀ pos t, h.update.1.tokenAt? pos = some t ↔
      t ∈ h.update.1.tokens ∧ t.start ≤ pos ∧ pos < t.stop) ∧
    (∀ pos, (h.update.1.tokenAt? pos).isSome ↔
      0 ≤ pos ∧ pos < ((h.update.1.tokens.back?.map Token.stop).getD 0 : Nat)) ∧
    (∀ o, StartsCharacter contents o →
      (h.update.1.matchAt? (placeOf contents o).1 (placeOf contents o).2).map
          (fun m ↦ (m.group, m.cls)) =
        (h.update.1.tokenAt? o).bind fun t ↦ markOf h.language t.cls) ∧
    ∀ line col : Int, (∀ o, StartsCharacter contents o →
        ((placeOf contents o).1 : Int) ≠ line ∨ ((placeOf contents o).2 : Int) ≠ col) →
      h.update.1.matchAt? line col = none := by
  have hh := update_highlights hbuffer
  obtain ⟨stop, htiles⟩ := hh.tiles
  have hlanguage : h.update.1.language = h.language := by
    unfold update
    split <;> rfl
  refine ⟨fun line ↦ ?_, fun pos t ↦ tokenAt?_eq_some_iff htiles, isSome_tokenAt?_iff htiles,
    fun o ho ↦ ?_, fun line col hno ↦ ?_⟩
  · unfold matchesOf
    split
    · exact ⟨by simp, List.Pairwise.nil⟩
    · exact hh.inOrder line.toNat
  · rw [matchAt?_placeOf hh ho, hlanguage]
  · by_cases hneg : line < 0 ∨ col < 0
    · exact matchAt?_eq_none hneg
    · rw [not_or, Int.not_lt, Int.not_lt] at hneg
      obtain ⟨k, rfl⟩ := Int.eq_ofNat_of_zero_le hneg.1
      obtain ⟨j, rfl⟩ := Int.eq_ofNat_of_zero_le hneg.2
      have hmark := hh.matchAt? k j
      cases hgiven : givenAt (0, 0) (cellsOf h.update.1.language h.update.1.tokens.toList
          (Text.pieces contents).toList) (k, j) with
      | none =>
        rw [hgiven] at hmark
        exact Option.map_eq_none_iff.mp hmark
      | some mark =>
        obtain ⟨o, ho, hplace⟩ := exists_startsCharacter hgiven
        have hother := hno o ho
        rw [hplace] at hother
        simp at hother

/-- A character that no rule matches is found on the second line as it is found by its offset. -/
theorem lookups_agree_nestedBlocks :
    ∃ (g : CompiledGrammar) (h : Highlighter), compile nestedBlocks = .ok g ∧
      h.language = some (Language.ofGrammar g) ∧
      h.buffer = Buffer.ofBytes "<\n!".toUTF8 ∧ StartsCharacter "<\n!".toUTF8 2 ∧
      placeOf "<\n!".toUTF8 2 = (1, 0) ∧ (h.update.1.tokenAt? 2).any (·.cls == Class.unknown) ∧
      (h.update.1.matchAt? 1 0).map (fun m ↦ (m.group, m.cls)) =
        (h.update.1.tokenAt? 2).bind fun t ↦ markOf h.language t.cls := by
  obtain ⟨g, hg, htoken⟩ := exists_compiled nestedBlocks
    (fun g ↦ ((ofBuffer (Buffer.ofBytes "<\n!".toUTF8)
      (some (Language.ofGrammar g)) none).update.1.tokenAt? 2).any (·.cls == Class.unknown))
    (by decide +kernel)
  have hsecond : Boundary "<\n!".toUTF8 1 := Boundary.start.next (by decide +kernel)
  have hthird : Boundary "<\n!".toUTF8 2 := hsecond.next (by decide +kernel)
  have hstarts : StartsCharacter "<\n!".toUTF8 2 :=
    ⟨hthird, by decide +kernel, by decide +kernel⟩
  have hplace : placeOf "<\n!".toUTF8 2 = (1, 0) := by decide +kernel
  obtain ⟨-, -, -, hmatch, -⟩ :=
    lookups_agree (h := ofBuffer (Buffer.ofBytes "<\n!".toUTF8) (some (Language.ofGrammar g)) none)
      rfl
  have hthere := hmatch 2 hstarts
  rw [hplace] at hthere
  exact ⟨g, _, hg, rfl, rfl, hstarts, hplace, htoken, hthere⟩

end CodeViewer.Highlighter
