import CodeViewer.Buffer.Rope
import CodeViewer.Proofs.Text.Lines
import Mathlib.Algebra.GroupWithZero.Nat

/-!
# A rope is its text

What is asked of a rope is answered as it would be by its text in one piece. This takes that every
node knows how many bytes it has, which holds of a rope that is built from a text and of what it is
cut into. Where the text is cut into leaves matters only to characters of several bytes.
-/

namespace CodeViewer.Rope

open Text (byteList byteList_append byteList_extract byteList_empty length_byteList linesOf
  lineOffset lineOffset_cons feedByte)

/-- The bytes of a rope from left to right. -/
def bytes (r : Rope) : List UInt8 := r.leaves.flatMap byteList

/-- A leaf holds its text. -/
@[simp] theorem bytes_leaf (text : ByteArray) : (leaf text).bytes = byteList text := by
  simp [bytes, leaves]

/-- A node holds what its two sides hold, one behind the other. -/
@[simp] theorem bytes_node (n : Nat) (left right : Rope) :
    (node n left right).bytes = left.bytes ++ right.bytes := by
  simp [bytes, leaves]

/-- Every node knows the number of its bytes. -/
def WellSized : Rope → Prop
  | leaf _ => True
  | node n left right => n = left.size + right.size ∧ left.WellSized ∧ right.WellSized

/-- A rope whose sizes are right holds as many bytes as its size says. -/
theorem WellSized.length_bytes {r : Rope} (h : r.WellSized) : r.bytes.length = r.size := by
  induction r with
  | leaf text => simp [size]
  | node n left right ihl ihr =>
    obtain ⟨rfl, hl, hr⟩ := h
    simp [size, ihl hl, ihr hr]

private theorem byteList_foldl (texts : List ByteArray) (before : ByteArray) :
    byteList (texts.foldl (· ++ ·) before) = byteList before ++ texts.flatMap byteList := by
  induction texts generalizing before with
  | nil => simp
  | cons text texts ih => simp [ih]

/-- The text of a rope has its bytes. -/
@[simp] theorem byteList_toBytes (r : Rope) : byteList r.toBytes = r.bytes := by
  simp [toBytes, byteList_foldl, bytes]

/-! ### Building, joining and cutting -/

/-- A rope has the bytes it stands for. -/
structure Holds (r : Rope) (bytes : List UInt8) : Prop where
  sized : r.WellSized
  bytes : r.bytes = bytes

/-- A rope has as many bytes as it stands for. -/
theorem Holds.size {r : Rope} {bs : List UInt8} (h : r.Holds bs) : r.size = bs.length := by
  rw [← h.bytes, h.sized.length_bytes]

private theorem Holds.leaf (text : ByteArray) : (leaf text).Holds (byteList text) :=
  ⟨trivial, bytes_leaf text⟩

private theorem Holds.node {left right : Rope} {bs cs : List UInt8} (hl : left.Holds bs)
    (hr : right.Holds cs) : (node (left.size + right.size) left right).Holds (bs ++ cs) :=
  ⟨⟨rfl, hl.sized, hr.sized⟩, by rw [bytes_node, hl.bytes, hr.bytes]⟩

/-- However often a text is halved, the rope holds it. -/
theorem build_holds (fuel : Nat) (text : ByteArray) :
    (build fuel text).Holds (byteList text) := by
  induction fuel generalizing text with
  | zero => exact .leaf text
  | succ fuel ih =>
    unfold build
    split
    · exact .leaf text
    · have hleft := ih (text.extract 0 (text.size / 2))
      have hright := ih (text.extract (text.size / 2) text.size)
      have hbytes : byteList (text.extract 0 (text.size / 2)) ++
          byteList (text.extract (text.size / 2) text.size) = byteList text := by
        rw [← byteList_append, ← ByteArray.extract_eq_extract_append_extract _ (Nat.zero_le _)
          (Nat.div_le_self _ _), ByteArray.extract_zero_size]
      have hsize : text.size = (build fuel (text.extract 0 (text.size / 2))).size +
          (build fuel (text.extract (text.size / 2) text.size)).size := by
        rw [hleft.size, hright.size, ← List.length_append, hbytes, length_byteList]
      have hnode := hleft.node hright
      rwa [← hsize, hbytes] at hnode

/-- The rope of a text holds the bytes of the text. -/
theorem ofBytes_holds (text : ByteArray) : (ofBytes text).Holds (byteList text) :=
  build_holds text.size text

private theorem Holds.join {left right : Rope} {bs cs : List UInt8} (hl : left.Holds bs)
    (hr : right.Holds cs) : (join left right).Holds (bs ++ cs) := by
  unfold Rope.join
  split
  · refine ⟨trivial, ?_⟩
    rw [bytes_leaf, byteList_append, byteList_toBytes, byteList_toBytes, hl.bytes, hr.bytes]
  · exact hl.node hr

/-- A rope is cut into the ropes of its first bytes and of the others. -/
theorem Holds.splitAt {r : Rope} {bs : List UInt8} (h : r.Holds bs) (i : Nat) :
    (r.splitAt i).1.Holds (bs.take i) ∧ (r.splitAt i).2.Holds (bs.drop i) := by
  obtain ⟨hsized, rfl⟩ := h
  induction r generalizing i with
  | leaf text =>
    have hfirst := ofBytes_holds (text.extract 0 i)
    have hrest := ofBytes_holds (text.extract i text.size)
    rw [byteList_extract, List.drop_zero, Nat.sub_zero] at hfirst
    rw [byteList_extract, List.take_of_length_le (by simp)] at hrest
    rw [bytes_leaf]
    exact ⟨hfirst, hrest⟩
  | node n left right ihl ihr =>
    obtain ⟨-, hl, hr⟩ := hsized
    have hlength := hl.length_bytes
    unfold Rope.splitAt
    rw [bytes_node]
    split
    · next hi =>
      subst hi
      rw [← hlength, List.take_left, List.drop_left]
      exact ⟨⟨hl, rfl⟩, ⟨hr, rfl⟩⟩
    · split
      · next hlt =>
        obtain ⟨hfirst, hrest⟩ := ihl i hl
        rw [List.take_append_of_le_length (by omega), List.drop_append_of_le_length (by omega)]
        exact ⟨hfirst, hrest.join ⟨hr, rfl⟩⟩
      · next hne hge =>
        obtain ⟨hfirst, hrest⟩ := ihr (i - left.size) hr
        rw [List.take_append, List.drop_append, List.take_of_length_le (by omega),
          List.drop_of_length_le (by omega), hlength, List.nil_append]
        exact ⟨Holds.join ⟨hl, rfl⟩ hfirst, hrest⟩

/-- A slice of a rope has the bytes between its ends. -/
theorem Holds.byteList_slice {r : Rope} {bs : List UInt8} (h : r.Holds bs) (start stop : Nat) :
    byteList (r.slice start stop) = (bs.drop start).take (stop - start) := by
  obtain ⟨hsized, rfl⟩ := h
  induction r generalizing start stop with
  | leaf text => rw [slice, byteList_extract, bytes_leaf]
  | node n left right ihl ihr =>
    obtain ⟨-, hl, hr⟩ := hsized
    have hlength := hl.length_bytes
    have hleft : byteList (if start < left.size then left.slice start (min stop left.size)
        else ByteArray.empty) = (left.bytes.drop start).take (stop - start) := by
      split
      · rw [ihl _ _ hl, List.take_eq_take_iff, List.length_drop]
        omega
      · rw [byteList_empty, List.drop_of_length_le (by omega), List.take_nil]
    have hright : byteList (if left.size < stop then
        right.slice (start - left.size) (stop - left.size) else ByteArray.empty) =
          (right.bytes.drop (start - left.size)).take
            (stop - start - (left.size - start)) := by
      split
      · rw [ihr _ _ hr]
        congr 1
        omega
      · next hge =>
        have hzero : stop - start - (left.size - start) = 0 := by omega
        rw [byteList_empty, hzero, List.take_zero]
    rw [slice, byteList_append, hleft, hright, bytes_node, List.drop_append, List.take_append,
      List.length_drop, hlength]

/-- A byte of a rope is the one that stands there. -/
theorem Holds.byteAt {r : Rope} {bs : List UInt8} (h : r.Holds bs) {i : Nat} (hi : i < bs.length) :
    bs[i]? = some (r.byteAt i) := by
  obtain ⟨hsized, rfl⟩ := h
  induction r generalizing i with
  | leaf text =>
    rw [bytes_leaf] at hi ⊢
    exact Text.getElem?_byteList hi
  | node n left right ihl ihr =>
    obtain ⟨-, hl, hr⟩ := hsized
    have hlength := hl.length_bytes
    rw [bytes_node, List.length_append] at hi
    rw [bytes_node, Rope.byteAt]
    split
    · next hlt => rw [List.getElem?_append_left (by omega), ihl hl (by omega)]
    · next hge => rw [List.getElem?_append_right (by omega), hlength, ihr hr (by omega)]

/-! ### Counting occurrences -/

/-- The number of occurrences of a sequence in bytes, none of which overlaps the one before. The
first `skip` bytes belong to an occurrence that is counted already. -/
def occurrencesBehind (seq : List UInt8) : (skip : Nat) → List UInt8 → Nat
  | _, [] => 0
  | skip + 1, _ :: bs => occurrencesBehind seq skip bs
  | 0, b :: bs =>
    if seq.isPrefixOf (b :: bs) then occurrencesBehind seq (seq.length - 1) bs + 1
    else occurrencesBehind seq 0 bs

/-- The number of occurrences of a sequence in bytes, none of which overlaps the one before. -/
def occurrences (seq bs : List UInt8) : Nat := occurrencesBehind seq 0 bs

private theorem occurrencesBehind_eq (seq : List UInt8) (skip : Nat) (bs : List UInt8) :
    occurrencesBehind seq skip bs = occurrences seq (bs.drop skip) := by
  induction bs generalizing skip with
  | nil => simp [occurrencesBehind, occurrences]
  | cons b bs ih =>
    cases skip with
    | zero => rfl
    | succ skip => rw [occurrencesBehind, ih, List.drop_succ_cons]

private theorem occurrences_cons_of_pos {seq : List UInt8} {b : UInt8} {bs : List UInt8}
    (hne : seq ≠ []) (h : seq <+: b :: bs) :
    occurrences seq (b :: bs) = occurrences seq ((b :: bs).drop seq.length) + 1 := by
  obtain ⟨c, cs, rfl⟩ := List.exists_cons_of_ne_nil hne
  rw [occurrences, occurrencesBehind, if_pos (List.isPrefixOf_iff_prefix.mpr h),
    occurrencesBehind_eq]
  rfl

private theorem occurrences_cons_of_neg {seq : List UInt8} {b : UInt8} {bs : List UInt8}
    (h : ¬ seq <+: b :: bs) : occurrences seq (b :: bs) = occurrences seq bs := by
  rw [occurrences, occurrencesBehind, if_neg (fun hp ↦ h (List.isPrefixOf_iff_prefix.mp hp))]
  rfl

private theorem occurrences_eq_zero {seq bs : List UInt8} (h : bs.length < seq.length) :
    occurrences seq bs = 0 := by
  induction bs with
  | nil => rfl
  | cons b bs ih =>
    rw [occurrences_cons_of_neg fun hp ↦ Nat.not_lt.mpr hp.length_le h,
      ih (Nat.lt_of_succ_lt h)]

/-- The occurrences of a single byte are those bytes. -/
theorem occurrences_singleton (b : UInt8) (bs : List UInt8) : occurrences [b] bs = bs.count b := by
  induction bs with
  | nil => rfl
  | cons c bs ih =>
    by_cases hc : c = b
    · subst hc
      rw [occurrences_cons_of_pos (List.cons_ne_nil _ _) (by simp), List.count_cons_self, ← ih]
      rfl
    · rw [occurrences_cons_of_neg (by simpa using Ne.symm hc), List.count_cons_of_ne hc, ih]

/-- If no occurrence reaches from one part into the next, both parts are counted by themselves. -/
theorem occurrences_append {seq as bs : List UInt8} (hne : seq ≠ [])
    (h : ∀ i < as.length, as.length < i + seq.length → ¬ seq <+: (as ++ bs).drop i) :
    occurrences seq (as ++ bs) = occurrences seq as + occurrences seq bs := by
  induction hn : as.length using Nat.strongRecOn generalizing as with
  | ind n ih =>
    subst hn
    cases as with
    | nil => exact (Nat.zero_add _).symm
    | cons a as =>
      have hlater {k : Nat} (hk : 0 < k) (hle : k ≤ as.length + 1) :
          occurrences seq ((a :: as).drop k ++ bs) =
            occurrences seq ((a :: as).drop k) + occurrences seq bs := by
        refine ih _ (by simp only [List.length_drop, List.length_cons]; omega) ?_ rfl
        intro i hi hover
        rw [List.length_drop, List.length_cons] at hi hover
        rw [← List.drop_append_of_le_length (by exact hle), List.drop_drop]
        exact h (k + i) (by rw [List.length_cons]; omega) (by rw [List.length_cons]; omega)
      by_cases hp : seq <+: a :: (as ++ bs)
      · have hfits : seq.length ≤ as.length + 1 := by
          refine Nat.not_lt.mp fun hlong ↦ h 0 (Nat.succ_pos _) ?_ hp
          rwa [List.length_cons, Nat.zero_add]
        have hpos := List.length_pos_iff.mpr hne
        have hfirst : seq <+: a :: as := List.prefix_of_prefix_length_le hp
          (List.prefix_append (a :: as) bs) hfits
        rw [List.cons_append, occurrences_cons_of_pos hne hp, occurrences_cons_of_pos hne hfirst,
          ← List.cons_append, List.drop_append_of_le_length hfits, hlater hpos hfits,
          Nat.add_right_comm]
      · have hfirst : ¬ seq <+: a :: as := fun hp' ↦
          hp (hp'.trans (List.prefix_append (a :: as) bs))
        rw [List.cons_append, occurrences_cons_of_neg hp, occurrences_cons_of_neg hfirst]
        exact hlater Nat.one_pos (Nat.le_add_left _ _)

private theorem standsAt_iff {text seq : ByteArray} {i : Nat} (h : i + seq.size ≤ text.size) :
    standsAt text seq i ↔ byteList seq <+: (byteList text).drop i := by
  rw [standsAt, Nat.all_eq_finRange_all, List.all_eq_true, List.prefix_iff_getElem?]
  simp only [List.mem_finRange, forall_const, beq_iff_eq, Fin.forall_iff, length_byteList]
  refine forall_congr' fun k ↦ forall_congr' fun hk ↦ ?_
  have hseq := Text.getElem?_byteList hk
  rw [List.getElem?_eq_getElem (by exact hk), Option.some.injEq] at hseq
  rw [List.getElem?_drop, Text.getElem?_byteList (by omega), hseq, Option.some.injEq]

private theorem countFrom_eq {text seq : ByteArray} (hseq : seq.size ≠ 0) {fuel i : Nat}
    (found : Nat) (hf : text.size ≤ i + fuel) :
    countFrom text seq fuel i found =
      found + occurrences (byteList seq) ((byteList text).drop i) := by
  induction fuel generalizing i found with
  | zero =>
    have hle : (byteList text).length ≤ i := hf
    rw [List.drop_of_length_le hle]
    rfl
  | succ fuel ih =>
    unfold countFrom
    split
    · next hlt =>
      rw [occurrences_eq_zero (by simp only [List.length_drop, length_byteList]; omega)]
      rfl
    · next hge =>
      have hfits : i + seq.size ≤ text.size := Nat.not_lt.mp hge
      have hstands := standsAt_iff hfits
      rw [Text.byteList_drop_eq_cons (by omega)] at hstands ⊢
      split
      · next h =>
        rw [ih _ (by omega), occurrences_cons_of_pos _ (hstands.mp h), length_byteList,
          ← Text.byteList_drop_eq_cons (by omega), List.drop_drop]
        · omega
        · exact List.ne_nil_of_length_pos (Nat.pos_of_ne_zero hseq)
      · next h =>
        rw [ih _ (by omega), occurrences_cons_of_neg (fun hp ↦ h (hstands.mpr hp))]

/-- The occurrences of a sequence in a part of a rope are counted leaf by leaf. -/
theorem count_eq (r : Rope) (start stop : Nat) {seq : ByteArray} (hseq : seq.size ≠ 0) :
    r.count start stop seq =
      (((r.splitAt start).2.splitAt (stop - start)).1.leaves.map
        (fun text ↦ occurrences (byteList seq) (byteList text))).sum := by
  have hleaf (text : ByteArray) :
      countInLeaf text seq = occurrences (byteList seq) (byteList text) := by
    rw [countInLeaf, if_neg hseq, countFrom_eq hseq 0 (Nat.le_add_left _ _), Nat.zero_add,
      List.drop_zero]
  unfold Rope.count
  simp only [hleaf, List.sum_eq_foldl, List.foldl_map]

/-- The occurrences of a byte in a part of a rope are counted. -/
theorem Holds.count_byte {r : Rope} {bs : List UInt8} (h : r.Holds bs) (start stop : Nat)
    (b : UInt8) :
    r.count start stop ⟨#[b]⟩ = ((bs.drop start).take (stop - start)).count b := by
  have hseq : byteList ⟨#[b]⟩ = [b] := rfl
  have hne : (⟨#[b]⟩ : ByteArray).size ≠ 0 := Nat.one_ne_zero
  have hpart : ((r.splitAt start).2.splitAt (stop - start)).1.leaves.flatMap byteList =
      (bs.drop start).take (stop - start) := ((h.splitAt start).2.splitAt (stop - start)).1.bytes
  rw [count_eq r start stop hne, hseq, ← hpart, List.count_flatMap]
  simp only [occurrences_singleton, Function.comp_def]

/-! ### Lines -/

private theorem skipLineFeeds_eq (text : ByteArray) (base fuel n i : Nat) (hi : i ≤ text.size)
    (hf : text.size < i + fuel) :
    skipLineFeeds text base fuel n i =
      if n ≤ ((byteList text).drop i).countP feedByte then
        .inr (base + i + lineOffset feedByte ((byteList text).drop i) n)
      else .inl (n - ((byteList text).drop i).countP feedByte) := by
  induction fuel generalizing n i with
  | zero => omega
  | succ fuel ih =>
    unfold skipLineFeeds
    cases n with
    | zero => simp
    | succ n =>
      rw [if_neg (Nat.succ_ne_zero n)]
      split
      · next hend =>
        have hle : (byteList text).length ≤ i := hend
        simp [List.drop_of_length_le hle]
      · next hlt =>
        have hi : i < text.size := Nat.not_le.mp hlt
        have hsum (m : Nat) : base + (i + 1) + m = base + i + (m + 1) := by omega
        refine Eq.trans (ih (if feedByte (Text.byteAt text i) then n else n + 1) (i + 1) hi
          (by omega)) ?_
        rw [Text.byteList_drop_eq_cons hi, List.countP_cons, lineOffset_cons]
        cases feedByte (Text.byteAt text i) with
        | true => simp only [ite_true, hsum, Nat.add_le_add_iff_right, Nat.add_sub_add_right]
        | false => simp only [Bool.false_eq_true, ite_false, hsum, Nat.add_zero]

/-- A line that a list of leaves has starts where it does in their bytes. -/
theorem skipLines_eq_some (base n : Nat) (texts : List ByteArray)
    (hn : n ≤ (texts.flatMap byteList).countP feedByte) :
    skipLines base n texts = some (base + lineOffset feedByte (texts.flatMap byteList) n) := by
  induction texts generalizing base n with
  | nil =>
    obtain rfl : n = 0 := Nat.le_zero.mp hn
    rfl
  | cons text texts ih =>
    cases n with
    | zero => rfl
    | succ n =>
      rw [List.flatMap_cons] at hn ⊢
      rw [List.countP_append] at hn
      unfold skipLines
      rw [skipLineFeeds_eq _ _ _ _ _ (Nat.zero_le _) (by omega), List.drop_zero]
      by_cases h : n + 1 ≤ (byteList text).countP feedByte
      · rw [if_pos h, Text.lineOffset_append_left _ h]
        rfl
      · have hlt : (byteList text).countP feedByte < n + 1 := Nat.not_le.mp h
        rw [if_neg h, Text.lineOffset_append_right _ hlt, length_byteList]
        simp only
        rw [ih _ _ (by omega), Nat.add_assoc]

/-- A list of leaves has no line behind its last one. -/
theorem skipLines_eq_none (base n : Nat) (texts : List ByteArray)
    (hn : (texts.flatMap byteList).countP feedByte < n) : skipLines base n texts = none := by
  obtain ⟨m, rfl⟩ := Nat.exists_eq_succ_of_ne_zero (Nat.ne_zero_of_lt hn)
  induction texts generalizing base m with
  | nil => rfl
  | cons text texts ih =>
    rw [List.flatMap_cons, List.countP_append] at hn
    unfold skipLines
    rw [skipLineFeeds_eq _ _ _ _ _ (Nat.zero_le _) (by omega), List.drop_zero, if_neg (by omega)]
    obtain ⟨k, hk⟩ := Nat.exists_eq_succ_of_ne_zero
      (show m + 1 - (byteList text).countP feedByte ≠ 0 by omega)
    simp only [Nat.succ_eq_add_one, hk] at hn ⊢
    exact ih _ k (by omega)

/-! ### The first line feed -/

private theorem leafUntil_feed (base : Nat) (text : ByteArray) (fuel i : Nat)
    (acc : Array (Nat × Char)) (hf : text.size ≤ i + fuel) :
    (leafUntil (fun _ c ↦ c == '\n') base text fuel i acc).2 =
      (((byteList text).drop i).findIdx? feedByte).map (base + i + ·) := by
  induction fuel generalizing i acc with
  | zero =>
    have hle : (byteList text).length ≤ i := hf
    rw [List.drop_of_length_le hle]
    rfl
  | succ fuel ih =>
    unfold leafUntil
    split
    · next hi =>
      have hpos := (Text.pieceAt text i).size_pos
      rw [Text.byteList_drop hi, List.findIdx?_append]
      by_cases hfeed : Text.pieceAt text i = .char '\n'
      · rw [hfeed]
        rfl
      · have hchar : ((Text.pieceAt text i).toChar == '\n') = false := by
          rw [beq_eq_false_iff_ne, ne_eq, Text.Piece.toChar_eq_iff (by decide)]
          exact hfeed
        have hnone : (Text.pieceAt text i).bytes.findIdx? feedByte = none := by
          rw [List.findIdx?_eq_none_iff]
          intro b hb
          rw [Bool.eq_false_iff]
          intro hbyte
          rw [eq_of_beq hbyte] at hb
          exact hfeed ((Text.mem_bytes_pieceAt (c := '\n') (by decide) hi).mp hb)
        simp only [hchar, Bool.false_eq_true, if_false, hnone, Option.none_or]
        rw [ih _ _ (by omega), Text.Piece.length_bytes, Option.map_map]
        congr 1
        funext j
        simp only [Function.comp_apply]
        omega
    · next hge =>
      have hle : (byteList text).length ≤ i := Nat.not_lt.mp hge
      rw [List.drop_of_length_le hle]
      rfl

private theorem leavesUntil_feed (base : Nat) (texts : List ByteArray)
    (acc : Array (Nat × Char)) :
    (leavesUntil (fun _ c ↦ c == '\n') base texts acc).2 =
      ((texts.flatMap byteList).findIdx? feedByte).map (base + ·) := by
  induction texts generalizing base acc with
  | nil => rfl
  | cons text texts ih =>
    have hleaf := leafUntil_feed base text text.size 0 acc (Nat.le_add_left _ _)
    rw [List.drop_zero] at hleaf
    unfold leavesUntil
    rw [List.flatMap_cons, List.findIdx?_append]
    split
    · next acc' offset hfound =>
      rw [hfound] at hleaf
      cases hidx : (byteList text).findIdx? feedByte with
      | none => simp [hidx] at hleaf
      | some j => simpa [hidx] using hleaf
    · next acc' hfound =>
      rw [hfound] at hleaf
      cases hidx : (byteList text).findIdx? feedByte with
      | none =>
        rw [ih, length_byteList, Option.none_or, Option.map_map]
        congr 1
        funext j
        simp only [Function.comp_apply]
        omega
      | some j => simp [hidx] at hleaf

/-- The next line feed is found, however the text is cut into leaves. -/
theorem Holds.charsUntil_feed {r : Rope} {bs : List UInt8} (h : r.Holds bs) (start : Nat) :
    (r.charsUntil (fun _ c ↦ c == '\n') start).2 =
      ((bs.drop start).findIdx? feedByte).map (start + ·) := by
  unfold charsUntil
  split
  · next hle =>
    rw [List.drop_of_length_le (h.size ▸ hle)]
    rfl
  · rw [leavesUntil_feed]
    exact congrArg (fun bs ↦ (bs.findIdx? feedByte).map (start + ·)) (h.splitAt start).2.bytes

end CodeViewer.Rope
