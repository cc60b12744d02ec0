import CodeViewer.Proofs.Buffer.Lines
import Mathlib.Data.List.TakeWhile

/-!
# The characters of a rope

A rope is read leaf by leaf. What is asked of its characters is answered as by the list of all that
is read in this way, and this is what is read from the text in one piece if no leaf starts inside a
character.
-/

namespace CodeViewer.Rope

open Text (Piece Laid Boundary byteList length_byteList byteList_extract byteList_inj feedByte
  feedPiece pieceLines)

/-! ### Reading leaf by leaf -/

/-- What is read from leaves, each by itself, the first of which starts at an offset. -/
def leafwise : (base : Nat) → List ByteArray → List (Nat × Piece)
  | _, [] => []
  | base, text :: texts =>
    (Text.pieces text).toList.map (fun p ↦ (base + p.1, p.2)) ++ leafwise (base + text.size) texts

/-- Whether a piece is where a search for a character stops. -/
def accepts (stop : Nat → Char → Bool) (p : Nat × Piece) : Bool := stop p.1 p.2.toChar

variable (stop : Nat → Char → Bool)

private theorem leafUntil_eq (base : Nat) {text : ByteArray} {fuel i : Nat}
    (acc : Array (Nat × Char)) {ps : List (Nat × Piece)} (h : Laid text i ps text.size)
    (hf : text.size ≤ i + fuel) :
    (leafUntil stop base text fuel i acc).1.toList =
        acc.toList ++ ((ps.map fun p ↦ (base + p.1, p.2)).takeWhile (!accepts stop ·)).map
          (fun p ↦ (p.1, p.2.toChar)) ∧
      (leafUntil stop base text fuel i acc).2 =
        ((ps.map fun p ↦ (base + p.1, p.2)).find? (accepts stop)).map Prod.fst := by
  induction ps generalizing fuel i acc with
  | nil =>
    obtain rfl : i = text.size := h
    cases fuel with
    | zero => simp [leafUntil]
    | succ fuel => simp [leafUntil]
  | cons p ps ih =>
    obtain ⟨hi, hlt, hp, hrest⟩ := h
    obtain ⟨j, p⟩ := p
    simp only at hi hp hrest
    subst hi
    have hpos := p.size_pos
    cases fuel with
    | zero => omega
    | succ fuel =>
      unfold leafUntil
      rw [if_pos hlt]
      simp only [← hp, List.map_cons, List.takeWhile_cons, List.find?_cons, accepts]
      by_cases hstop : stop (base + j) p.toChar
      · simp [hstop]
      · obtain ⟨hchars, hend⟩ := ih (acc.push (base + j, p.toChar)) hrest
          (show text.size ≤ j + p.size + fuel by omega)
        rw [Bool.not_eq_true] at hstop
        simp only [hstop, Bool.not_false, if_true, Bool.false_eq_true, if_false]
        refine ⟨?_, hend⟩
        rw [hchars]
        simp [accepts]

private theorem takeWhile_append_of_find? {α : Type} {p : α → Bool} {as bs : List α} {a : α}
    (h : as.find? p = some a) : (as ++ bs).takeWhile (!p ·) = as.takeWhile (!p ·) := by
  obtain ⟨ha, front, back, rfl, hfront⟩ := List.find?_eq_some_iff_append.mp h
  rw [List.append_assoc, List.takeWhile_append_of_pos hfront, List.takeWhile_append_of_pos hfront]
  simp [ha]

private theorem leavesUntil_eq (base : Nat) (texts : List ByteArray) (acc : Array (Nat × Char)) :
    (leavesUntil stop base texts acc).1.toList =
        acc.toList ++ ((leafwise base texts).takeWhile (!accepts stop ·)).map
          (fun p ↦ (p.1, p.2.toChar)) ∧
      (leavesUntil stop base texts acc).2 =
        ((leafwise base texts).find? (accepts stop)).map Prod.fst := by
  induction texts generalizing base acc with
  | nil => simp [leavesUntil, leafwise]
  | cons text texts ih =>
    obtain ⟨hchars, hend⟩ := leafUntil_eq stop base acc (Text.pieces_laid text)
      (Nat.le_add_left text.size 0)
    unfold leavesUntil leafwise
    rw [List.find?_append]
    split
    · next acc' offset hleaf =>
      rw [hleaf] at hchars hend
      obtain ⟨p, hp, hoffset⟩ := Option.map_eq_some_iff.mp hend.symm
      rw [takeWhile_append_of_find? hp, hp, Option.some_or, Option.map_some, hoffset]
      exact ⟨hchars, rfl⟩
    · next acc' hleaf =>
      rw [hleaf] at hchars hend
      have hnone := Option.map_eq_none_iff.mp hend.symm
      have hall : ∀ p ∈ (Text.pieces text).toList.map (fun p ↦ (base + p.1, p.2)),
          (!accepts stop p) = true := by
        simpa using List.find?_eq_none.mp hnone
      rw [List.takeWhile_append_of_pos hall, hnone, Option.none_or]
      obtain ⟨hrest, hlast⟩ := ih (base + text.size) acc'
      refine ⟨?_, hlast⟩
      rw [hrest, hchars, List.takeWhile_eq_self_iff.mpr hall, List.map_append, List.append_assoc]

private theorem leafwise_eq_nil {base : Nat} {texts : List ByteArray}
    (h : texts.flatMap byteList = []) : leafwise base texts = [] := by
  induction texts generalizing base with
  | nil => rfl
  | cons text texts ih =>
    rw [List.flatMap_cons, List.append_eq_nil_iff] at h
    obtain rfl : text = ByteArray.empty := byteList_inj.mp h.1
    unfold leafwise
    rw [ih h.2]
    rfl

/-- A search for a character from a place on reads the leaves behind it. -/
theorem Holds.charsUntil {r : Rope} {bs : List UInt8} (h : r.Holds bs) (pos : Nat) :
    (r.charsUntil stop pos).1.toList =
        ((leafwise pos (r.splitAt pos).2.leaves).takeWhile (!accepts stop ·)).map
          (fun p ↦ (p.1, p.2.toChar)) ∧
      (r.charsUntil stop pos).2 =
        ((leafwise pos (r.splitAt pos).2.leaves).find? (accepts stop)).map Prod.fst := by
  unfold Rope.charsUntil
  split
  · next hle =>
    have hbytes := (h.splitAt pos).2.bytes
    rw [List.drop_of_length_le (h.size ▸ hle)] at hbytes
    rw [leafwise_eq_nil hbytes]
    exact ⟨rfl, rfl⟩
  · simpa using leavesUntil_eq stop pos (r.splitAt pos).2.leaves #[]

/-! ### Line feeds -/

/-- However a text is cut into leaves, the line feeds in it are read. -/
theorem countP_feedPiece_leafwise (base : Nat) (texts : List ByteArray) :
    (leafwise base texts).countP feedPiece = (texts.flatMap byteList).countP feedByte := by
  induction texts generalizing base with
  | nil => rfl
  | cons text texts ih =>
    have hpieces := Text.length_linesOf feedPiece (Text.pieces text).toList
    have hbytes := Text.length_linesOf feedByte (byteList text)
    rw [Text.linesOf_byteList, List.length_map, pieceLines, hpieces] at hbytes
    unfold leafwise
    rw [List.countP_append, ih, List.flatMap_cons, List.countP_append, List.countP_map]
    exact congrArg (· + _) (Nat.succ_inj.mp hbytes)

/-! ### Where leaves start -/

/-- The places at which leaves start, the first of which does so at an offset. -/
def leafStarts : (base : Nat) → List ByteArray → List Nat
  | _, [] => []
  | base, text :: texts => base :: leafStarts (base + text.size) texts

private theorem leafStarts_append (base : Nat) (texts more : List ByteArray) :
    leafStarts base (texts ++ more) =
      leafStarts base texts ++ leafStarts (base + (texts.flatMap byteList).length) more := by
  induction texts generalizing base with
  | nil => rfl
  | cons text texts ih =>
    rw [List.cons_append, leafStarts, leafStarts, ih, List.flatMap_cons, List.length_append,
      length_byteList, List.cons_append, Nat.add_assoc]

/-- Leaves start within what they hold. -/
theorem le_of_mem_leafStarts {base k : Nat} {texts : List ByteArray}
    (h : k ∈ leafStarts base texts) : k ≤ base + (texts.flatMap byteList).length := by
  induction texts generalizing base with
  | nil => cases h
  | cons text texts ih =>
    rw [List.flatMap_cons, List.length_append, length_byteList]
    rcases List.mem_cons.mp h with rfl | h
    · exact Nat.le_add_right _ _
    · have hle := ih h
      omega

private theorem mem_leafStarts (r : Rope) (base : Nat) : base ∈ leafStarts base r.leaves := by
  induction r generalizing base with
  | leaf text => simp [leaves, leafStarts]
  | node n left right ihl ihr =>
    rw [leaves, leafStarts_append]
    exact List.mem_append_left _ (ihl base)

private theorem leafStarts_node {left : Rope} (hl : left.WellSized) (base n : Nat) (right : Rope) :
    leafStarts base (node n left right).leaves =
      leafStarts base left.leaves ++ leafStarts (base + left.size) right.leaves := by
  rw [leaves, leafStarts_append]
  change _ ++ leafStarts (base + left.bytes.length) _ = _
  rw [hl.length_bytes]

/-- The leaves of a rope are too small to be halved. -/
def SmallLeaves (r : Rope) : Prop := ∀ text ∈ r.leaves, text.size ≤ splitLength

private theorem SmallLeaves.leaf {text : ByteArray} (h : text.size ≤ splitLength) :
    (leaf text).SmallLeaves := by
  intro text' htext
  rwa [List.mem_singleton.mp htext]

private theorem SmallLeaves.node {left right : Rope} (hl : left.SmallLeaves)
    (hr : right.SmallLeaves)
    (n : Nat) : (node n left right).SmallLeaves := by
  intro text htext
  rcases List.mem_append.mp htext with htext | htext
  · exact hl text htext
  · exact hr text htext

private theorem build_smallLeaves {fuel : Nat} {text : ByteArray} (h : text.size ≤ fuel) :
    (build fuel text).SmallLeaves := by
  induction fuel generalizing text with
  | zero => exact .leaf (by omega)
  | succ fuel ih =>
    unfold build
    split
    · next hsmall => exact .leaf hsmall
    · next hlarge =>
      simp only [splitLength] at hlarge
      refine .node (ih ?_) (ih ?_) text.size
      · simp only [ByteArray.size_extract]
        omega
      · simp only [ByteArray.size_extract]
        omega

/-- A rope is built of small leaves. -/
theorem ofBytes_smallLeaves (text : ByteArray) : (ofBytes text).SmallLeaves :=
  build_smallLeaves (Nat.le_refl _)

private theorem build_eq_leaf {text : ByteArray} (h : text.size ≤ splitLength) (fuel : Nat) :
    build fuel text = Rope.leaf text := by
  cases fuel with
  | zero => rfl
  | succ n => rw [build, if_pos h]

/-- A small text is one leaf. -/
theorem ofBytes_eq_leaf {text : ByteArray} (h : text.size ≤ splitLength) :
    ofBytes text = Rope.leaf text := build_eq_leaf h _

/-- A text that is not much larger is halved once. -/
theorem ofBytes_eq_node {text : ByteArray} (hlarge : splitLength < text.size)
    (h : text.size < 2 * splitLength) :
    ofBytes text = .node text.size (Rope.leaf (text.extract 0 (text.size / 2)))
      (Rope.leaf (text.extract (text.size / 2) text.size)) := by
  unfold ofBytes
  obtain ⟨n, hn⟩ := Nat.exists_eq_succ_of_ne_zero (Nat.ne_zero_of_lt hlarge)
  rw [hn, build, if_neg (Nat.not_le.mpr (hn ▸ hlarge)), ← hn]
  simp only
  rw [build_eq_leaf, build_eq_leaf]
  · simp only [ByteArray.size_extract]
    omega
  · simp only [ByteArray.size_extract]
    omega

private theorem join_smallLeaves {left right : Rope} (hleft : left.SmallLeaves)
    (hright : right.SmallLeaves) (hl : left.WellSized) (hr : right.WellSized) :
    (join left right).SmallLeaves := by
  unfold join
  split
  · next hsmall =>
    refine .leaf ?_
    rw [← length_byteList, Text.byteList_append, byteList_toBytes, byteList_toBytes,
      List.length_append, hl.length_bytes, hr.length_bytes]
    simp only [splitLength, joinLength] at hsmall ⊢
    omega
  · exact hleft.node hright _

private theorem leafStarts_join {left right : Rope} (hl : left.WellSized) (base : Nat) :
    leafStarts base (join left right).leaves ⊆
      leafStarts base left.leaves ++ leafStarts (base + left.size) right.leaves := by
  unfold join
  split
  · intro k hk
    obtain rfl : k = base := List.mem_singleton.mp hk
    exact List.mem_append_left _ (mem_leafStarts left k)
  · rw [leafStarts_node hl]
    exact List.Subset.refl _

/-- Cutting a rope of small leaves makes a new leaf at the cut only. -/
theorem SmallLeaves.splitAt {r : Rope} (h : r.SmallLeaves) (hr : r.WellSized) (base i : Nat) :
    ((r.splitAt i).1.SmallLeaves ∧
      leafStarts base (r.splitAt i).1.leaves ⊆ leafStarts base r.leaves) ∧
    (r.splitAt i).2.SmallLeaves ∧
      leafStarts (base + i) (r.splitAt i).2.leaves ⊆ (base + i) :: leafStarts base r.leaves := by
  induction r generalizing base i with
  | leaf text =>
    have hsize : text.size ≤ splitLength := h text (List.mem_singleton_self text)
    have hfirst : (text.extract 0 i).size ≤ splitLength := by
      simp only [ByteArray.size_extract]
      omega
    have hrest : (text.extract i text.size).size ≤ splitLength := by
      simp only [ByteArray.size_extract]
      omega
    rw [Rope.splitAt, ofBytes_eq_leaf hfirst, ofBytes_eq_leaf hrest]
    exact ⟨⟨.leaf hfirst, List.Subset.refl _⟩, .leaf hrest,
      List.cons_subset_cons _ (List.nil_subset _)⟩
  | node n left right ihl ihr =>
    obtain ⟨-, hl, hr⟩ := hr
    have hleft : left.SmallLeaves := fun text htext ↦ h text (List.mem_append_left _ htext)
    have hright : right.SmallLeaves := fun text htext ↦ h text (List.mem_append_right _ htext)
    rw [leafStarts_node hl]
    unfold Rope.splitAt
    split
    · next hi =>
      subst hi
      exact ⟨⟨hleft, List.subset_append_left _ _⟩, hright,
        List.Subset.trans (List.subset_append_right _ _) (List.subset_cons_self _ _)⟩
    · split
      · next hlt =>
        obtain ⟨⟨hsmall, hsub⟩, hsmall', hsub'⟩ := ihl hleft hl base i
        have hrest := (Holds.splitAt ⟨hl, rfl⟩ i).2
        have hsize : i + (left.splitAt i).2.size = left.size := by
          rw [hrest.size, List.length_drop, hl.length_bytes]
          omega
        refine ⟨⟨hsmall, List.Subset.trans hsub (List.subset_append_left _ _)⟩,
          join_smallLeaves hsmall' hright hrest.sized hr, ?_⟩
        refine List.Subset.trans (leafStarts_join hrest.sized (base + i)) ?_
        rw [Nat.add_assoc, hsize, ← List.cons_append]
        exact List.append_subset.mpr ⟨List.Subset.trans hsub' (List.subset_append_left _ _),
          List.subset_append_right _ _⟩
      · next hne hge =>
        obtain ⟨⟨hsmall, hsub⟩, hsmall', hsub'⟩ := ihr hright hr (base + left.size) (i - left.size)
        have hfirst := (Holds.splitAt ⟨hr, rfl⟩ (i - left.size)).1
        have hsum : base + left.size + (i - left.size) = base + i := by omega
        rw [hsum] at hsub'
        refine ⟨⟨join_smallLeaves hleft hsmall hl hfirst.sized, ?_⟩, hsmall', ?_⟩
        · refine List.Subset.trans (leafStarts_join hl base) ?_
          exact List.append_subset.mpr ⟨List.subset_append_left _ _,
            List.Subset.trans hsub (List.subset_append_right _ _)⟩
        · exact List.Subset.trans hsub' (List.cons_subset_cons _ (List.subset_append_right _ _))

/-! ### Leaves that cut no character -/

/-- If no leaf starts inside a character, what is read leaf by leaf is what is read from the
text. -/
theorem laid_leafwise {contents : ByteArray} {base : Nat} {texts : List ByteArray}
    (hbase : base ≤ contents.size) (hbytes : texts.flatMap byteList = (byteList contents).drop base)
    (hstarts : ∀ k ∈ leafStarts base texts, Boundary contents k) :
    Laid contents base (leafwise base texts) contents.size := by
  induction texts generalizing base with
  | nil =>
    have hlength := congrArg List.length hbytes
    simp only [List.flatMap_nil, List.length_nil, List.length_drop, length_byteList] at hlength
    change base = contents.size
    omega
  | cons text texts ih =>
    rw [List.flatMap_cons] at hbytes
    have hlength := congrArg List.length hbytes
    simp only [List.length_append, List.length_drop, length_byteList] at hlength
    have hrest : texts.flatMap byteList = (byteList contents).drop (base + text.size) := by
      rw [← List.drop_drop, ← hbytes, List.drop_left' (length_byteList text)]
    have htext : text = contents.extract base (base + text.size) := by
      apply byteList_inj.mp
      rw [byteList_extract, ← hbytes, Nat.add_sub_cancel_left,
        List.take_left' (length_byteList text)]
    have hfrom : Boundary contents base := hstarts base List.mem_cons_self
    have hto : Boundary contents (base + text.size) := by
      cases texts with
      | nil =>
        have hend : base + text.size = contents.size := by
          simp only [List.flatMap_nil, List.length_nil] at hlength
          omega
        rw [hend]
        exact (Text.pieces_laid contents).boundary .start
      | cons next texts => exact hstarts _ (List.mem_cons_of_mem _ List.mem_cons_self)
    obtain ⟨-, after, -, -, hafter⟩ := (Text.pieces_laid contents).split hfrom (Nat.zero_le _)
      hfrom.le_size .start
    obtain ⟨inside, behind, -, hinside, -⟩ := hafter.split hto (Nat.le_add_right _ _)
      hto.le_size hfrom
    have hpieces : (Text.pieces text).toList.map (fun p ↦ (base + p.1, p.2)) = inside := by
      rw [htext, hinside.pieces_extract hbase, List.map_map]
      refine (List.map_congr_left fun p hp ↦ ?_).trans (List.map_id inside)
      have hle := (hinside.mem hp).1
      exact Prod.ext (Nat.add_sub_cancel' hle) rfl
    unfold leafwise
    rw [hpieces]
    exact Laid.append_iff.mpr ⟨_, hinside, ih hto.le_size hrest fun k hk ↦
      hstarts k (List.mem_cons_of_mem _ hk)⟩

/-- What is read from a place between two characters on is what the text holds there, if no leaf of
the rope starts inside a character. -/
theorem laid_leafwise_splitAt {contents : ByteArray} {pos : Nat} (hpos : Boundary contents pos)
    (hstarts : ∀ k ∈ leafStarts 0 (ofBytes contents).leaves, Boundary contents k) :
    Laid contents pos (leafwise pos ((ofBytes contents).splitAt pos).2.leaves) contents.size := by
  have hholds := ofBytes_holds contents
  obtain ⟨-, -, hsub⟩ := (ofBytes_smallLeaves contents).splitAt hholds.sized 0 pos
  rw [Nat.zero_add] at hsub
  refine laid_leafwise hpos.le_size (hholds.splitAt pos).2.bytes fun k hk ↦ ?_
  rcases List.mem_cons.mp (hsub hk) with rfl | hk
  · exact hpos
  · exact hstarts k hk

/-! ### Leaves that cut no occurrence -/

private theorem sum_occurrences {seq : List UInt8} (hne : seq ≠ []) {base : Nat}
    {texts : List ByteArray}
    (h : ∀ k ∈ leafStarts base texts, ∀ i, base ≤ i → i < k → k < i + seq.length →
      ¬ seq <+: (texts.flatMap byteList).drop (i - base)) :
    (texts.map (fun text ↦ occurrences seq (byteList text))).sum =
      occurrences seq (texts.flatMap byteList) := by
  induction texts generalizing base with
  | nil => rfl
  | cons text texts ih =>
    rw [List.flatMap_cons] at h ⊢
    rw [List.map_cons, List.sum_cons, @ih (base + text.size), occurrences_append hne]
    · intro i hi hover hp
      rw [length_byteList] at hi hover
      cases texts with
      | nil =>
        have hlength := hp.length_le
        simp only [List.flatMap_nil, List.append_nil, List.length_drop, length_byteList] at hlength
        omega
      | cons next texts =>
        refine h (base + text.size) (List.mem_cons_of_mem _ List.mem_cons_self) (base + i)
          (by omega) (by omega) (by omega) ?_
        rwa [Nat.add_sub_cancel_left]
    · intro k hk i hi hik hover hp
      refine h k (List.mem_cons_of_mem _ hk) i (by omega) hik hover ?_
      have hsplit : i - base = text.size + (i - (base + text.size)) := by omega
      rwa [hsplit, ← List.drop_drop, List.drop_left' (length_byteList text)]

/-- No leaf of a rope starts inside an occurrence of a sequence that lies between two offsets. -/
def KeepsOccurrences (contents seq : ByteArray) (start stop : Nat) : Prop :=
  ∀ k ∈ leafStarts 0 (ofBytes contents).leaves, ∀ i, start ≤ i → i < k → k < i + seq.size →
    i + seq.size ≤ stop → ¬ byteList seq <+: (byteList contents).drop i

/-- The occurrences between two offsets are counted as in the text, if no leaf of the rope starts
inside one of them. -/
theorem count_ofBytes {contents seq : ByteArray} {start stop : Nat} (hseq : seq.size ≠ 0)
    (hle : start ≤ stop) (hkeeps : KeepsOccurrences contents seq start stop) :
    (ofBytes contents).count start stop seq =
      occurrences (byteList seq) (byteList (contents.extract start stop)) := by
  have hholds := ofBytes_holds contents
  have hne : byteList seq ≠ [] := List.ne_nil_of_length_pos (Nat.pos_of_ne_zero hseq)
  obtain ⟨-, hsmall, hsub⟩ := (ofBytes_smallLeaves contents).splitAt hholds.sized 0 start
  rw [Nat.zero_add] at hsub
  have hafter := (hholds.splitAt start).2
  obtain ⟨⟨-, hsub'⟩, -⟩ := hsmall.splitAt hafter.sized start (stop - start)
  have hbytes : ((((ofBytes contents).splitAt start).2.splitAt (stop - start)).1.leaves).flatMap
      byteList = byteList (contents.extract start stop) :=
    (hafter.splitAt (stop - start)).1.bytes.trans (byteList_extract _ _ _).symm
  rw [count_eq _ _ _ hseq, @sum_occurrences _ hne start, hbytes]
  intro k hk i hi hik hover hp
  rw [hbytes, byteList_extract, List.drop_take, List.drop_drop, Nat.add_sub_cancel' hi] at hp
  rcases List.mem_cons.mp (hsub (hsub' hk)) with rfl | hk
  · omega
  · have hlength := hp.length_le
    have hpos := Nat.pos_of_ne_zero hseq
    rw [length_byteList, List.length_take] at hlength
    exact hkeeps k hk i hi hik hover (by omega) (hp.trans (List.take_prefix _ _))

end CodeViewer.Rope
