import CodeViewer.Proofs.Screen.Cells
import CodeViewer.Screen.Width
import Mathlib.Algebra.Order.Ring.Int

/-!
# Measured and drawn widths

The room of a text is measured cluster by cluster, but its characters are put on the screen one by
one, each into a cell of its own. The two agree exactly for texts all of whose clusters are single
characters that take a cell. Every other text, be it one with combining marks, is drawn wider than
it is measured.
-/

namespace CodeViewer

/-! ### Drawn texts -/

private theorem drawnWidth_eq_sum (text : List Char) :
    drawnWidth text = (text.map advanceWidth).sum := by
  rw [List.sum_eq_foldl, List.foldl_map]
  rfl

/-- The first character is drawn in front of the others. -/
theorem drawnWidth_cons (c : Char) (rest : List Char) :
    drawnWidth (c :: rest) = advanceWidth c + drawnWidth rest := by
  rw [drawnWidth_eq_sum, drawnWidth_eq_sum, List.map_cons, List.sum_cons]

/-- A text is drawn as wide as its two parts. -/
theorem drawnWidth_append (front back : List Char) :
    drawnWidth (front ++ back) = drawnWidth front + drawnWidth back := by
  rw [drawnWidth_eq_sum, drawnWidth_eq_sum, drawnWidth_eq_sum, List.map_append, List.sum_append]

private theorem drawnWidth_eq_zero_iff {text : List Char} : drawnWidth text = 0 ↔ text = [] := by
  cases text with
  | nil => exact iff_of_true rfl rfl
  | cons c rest =>
    have hone := one_le_advanceWidth c
    rw [drawnWidth_cons]
    exact iff_of_false (by omega) (List.cons_ne_nil c rest)

/-- A character of a text is put behind those in front of it. -/
theorem mem_textPuts_iff {text : List Char} {x y : Int} {style : Style} {p : Put} :
    p ∈ textPuts x y style text ↔
      ∃ front c back, text = front ++ c :: back ∧ p = ⟨x + drawnWidth front, y, c, style⟩ := by
  induction text generalizing x with
  | nil => simp [textPuts]
  | cons d rest ih =>
    rw [textPuts, List.mem_cons, ih]
    constructor
    · rintro (rfl | ⟨front, c, back, rfl, rfl⟩)
      · exact ⟨[], d, rest, rfl, by simp [drawnWidth]⟩
      · refine ⟨d :: front, c, back, rfl, ?_⟩
        rw [Put.mk.injEq, drawnWidth_cons]
        exact ⟨by omega, rfl, rfl, rfl⟩
    · rintro ⟨front, c, back, hsplit, rfl⟩
      cases front with
      | nil =>
        cases hsplit
        exact .inl (by simp [drawnWidth])
      | cons d' front =>
        cases hsplit
        refine .inr ⟨front, c, back, rfl, ?_⟩
        rw [Put.mk.injEq, drawnWidth_cons]
        exact ⟨by omega, rfl, rfl, rfl⟩

private theorem eq_of_split {front front' back back' : List Char} {c c' : Char}
    (h : front ++ c :: back = front' ++ c' :: back')
    (hwidth : drawnWidth front = drawnWidth front') : c = c' := by
  rcases List.append_eq_append_iff.mp h with ⟨middle, rfl, hback⟩ | ⟨middle, rfl, hback⟩
  all_goals
    rw [drawnWidth_append] at hwidth
    obtain rfl := drawnWidth_eq_zero_iff.mp (show drawnWidth middle = 0 by omega)
    cases hback
    rfl

/-- A text that is put on the screen last is shown as a whole. -/
theorem Screen.cellAt_textPuts_of_split {s : Screen} (hs : s.Filled) {front back : List Char}
    {c : Char} {x y : Int} {col row : Nat} (hcol : col = x + drawnWidth front) (hrow : row = y)
    (hx : col < s.width) (hy : row < s.height) (style : Style) :
    (s.putAll (textPuts x y style (front ++ c :: back))).cellAt col row = ⟨c, style⟩ := by
  refine cellAt_putAll_of_hit hs hx hy (fun p hp ⟨hpx, hpy⟩ ↦ ?_)
    ⟨_, mem_textPuts_iff.mpr ⟨front, c, back, rfl, rfl⟩, hcol.symm, hrow.symm⟩
  obtain ⟨front', c', back', hsplit, rfl⟩ := mem_textPuts_iff.mp hp
  rw [eq_of_split hsplit (by simp only at hpx; omega)]

/-- The characters of a text all end in front of a column exactly if the text does. -/
theorem textPuts_end_le_iff {text : List Char} {x stop : Int} (hx : x ≤ stop) (y : Int)
    (style : Style) :
    (∀ p ∈ textPuts x y style text, p.x + advanceWidth p.char ≤ stop) ↔
      x + drawnWidth text ≤ stop := by
  constructor
  · intro h
    rcases List.eq_nil_or_concat text with rfl | ⟨front, c, rfl⟩
    · exact (Int.add_zero x).symm ▸ hx
    · rw [List.concat_eq_append] at h ⊢
      have hlast := h _ (mem_textPuts_iff.mpr ⟨front, c, [], rfl, rfl⟩)
      rw [drawnWidth_append, drawnWidth_cons]
      simp only [drawnWidth, List.foldl_nil] at hlast ⊢
      omega
  · intro h p hp
    obtain ⟨front, c, back, rfl, rfl⟩ := mem_textPuts_iff.mp hp
    rw [drawnWidth_append, drawnWidth_cons] at h
    simp only
    omega

/-! ### Clusters -/

namespace Cluster

private theorem flatten_splitFrom (s : State) (current rest : List Char) :
    (splitFrom s current rest).flatten = current.reverse ++ rest := by
  induction rest generalizing s current with
  | nil => rw [splitFrom, List.flatten_singleton, List.append_nil]
  | cons c rest ih =>
    rw [splitFrom]
    split
    · rw [ih, List.reverse_cons, List.append_assoc, List.singleton_append]
    · rw [List.flatten_cons, ih, List.reverse_singleton, List.singleton_append]

/-- The clusters of a text make it up. -/
theorem flatten_split (text : List Char) : (split text).flatten = text := by
  cases text with
  | nil => rfl
  | cons c rest => exact flatten_splitFrom _ [c] rest

private theorem ne_nil_of_mem_splitFrom {s : State} {current rest cluster : List Char}
    (hcurrent : current ≠ []) (h : cluster ∈ splitFrom s current rest) : cluster ≠ [] := by
  induction rest generalizing s current with
  | nil =>
    rw [List.mem_singleton.mp h]
    exact List.reverse_ne_nil_iff.mpr hcurrent
  | cons c rest ih =>
    rw [splitFrom] at h
    split at h
    · exact ih (List.cons_ne_nil c current) h
    · rcases List.mem_cons.mp h with rfl | h
      · exact List.reverse_ne_nil_iff.mpr hcurrent
      · exact ih (List.cons_ne_nil c []) h

private theorem ne_nil_of_mem_split {text cluster : List Char} (h : cluster ∈ split text) :
    cluster ≠ [] := by
  cases text with
  | nil => cases h
  | cons c rest => exact ne_nil_of_mem_splitFrom (List.cons_ne_nil c []) h

end Cluster

namespace Width

/-! ### Measured texts -/

private theorem ofText_eq_sum (text : List Char) :
    ofText text = ((Cluster.split text).map ofCluster).sum := by
  rw [List.sum_eq_foldl, List.foldl_map]
  rfl

private theorem ofCluster_cons (c : Char) (rest : List Char) :
    ofCluster (c :: rest) =
      if 0 < Unicode.cellWidth c then Unicode.cellWidth c else ofCluster rest := by
  rw [ofCluster, List.map_cons, List.find?_cons]
  by_cases hc : 0 < Unicode.cellWidth c
  · simp [hc]
  · simp [hc, ofCluster]

/-- No cluster is drawn narrower than it is measured. -/
theorem ofCluster_le_drawnWidth (cluster : List Char) : ofCluster cluster ≤ drawnWidth cluster := by
  induction cluster with
  | nil => exact Nat.zero_le _
  | cons c rest ih =>
    have hcells : Unicode.cellWidth c ≤ advanceWidth c := Nat.le_max_left _ _
    rw [ofCluster_cons, drawnWidth_cons]
    split
    · omega
    · omega

/-- Only a single character that takes a cell is drawn as wide as it is measured. -/
theorem drawnWidth_eq_ofCluster_iff {cluster : List Char} (hne : cluster ≠ []) :
    drawnWidth cluster = ofCluster cluster ↔ ∃ c, cluster = [c] ∧ 0 < Unicode.cellWidth c := by
  constructor
  · intro h
    cases cluster with
    | nil => exact absurd rfl hne
    | cons c rest =>
      have hrest := ofCluster_le_drawnWidth rest
      have hone := one_le_advanceWidth c
      rw [drawnWidth_cons, ofCluster_cons] at h
      split at h
      · next hc =>
        have hcells : Unicode.cellWidth c ≤ advanceWidth c := Nat.le_max_left _ _
        obtain rfl := drawnWidth_eq_zero_iff.mp (show drawnWidth rest = 0 by omega)
        exact ⟨c, rfl, hc⟩
      · omega
  · rintro ⟨c, rfl, hc⟩
    rw [ofCluster_cons, if_pos hc, drawnWidth_cons]
    exact Nat.max_eq_left hc

/-- A text is drawn as wide as it is measured. -/
def Measured (text : List Char) : Prop := drawnWidth text = ofText text

instance : DecidablePred Measured := fun text ↦
  inferInstanceAs (Decidable (drawnWidth text = ofText text))

private theorem drawnWidth_flatten (clusters : List (List Char)) :
    (clusters.map ofCluster).sum ≤ drawnWidth clusters.flatten ∧
      (drawnWidth clusters.flatten = (clusters.map ofCluster).sum ↔
        ∀ cluster ∈ clusters, drawnWidth cluster = ofCluster cluster) := by
  induction clusters with
  | nil => exact ⟨Nat.le_refl 0, iff_of_true rfl fun cluster h ↦ nomatch h⟩
  | cons cluster rest ih =>
    have hfirst := ofCluster_le_drawnWidth cluster
    rw [List.flatten_cons, drawnWidth_append, List.map_cons, List.sum_cons, List.forall_mem_cons,
      ← ih.2]
    have hrest := ih.1
    omega

/-- No text is drawn narrower than it is measured. -/
theorem ofText_le_drawnWidth (text : List Char) : ofText text ≤ drawnWidth text := by
  have h := (drawnWidth_flatten (Cluster.split text)).1
  rwa [Cluster.flatten_split, ← ofText_eq_sum] at h

/-- A text is drawn as wide as it is measured exactly if its clusters are. -/
theorem measured_iff_clusters {text : List Char} :
    Measured text ↔ ∀ cluster ∈ Cluster.split text, drawnWidth cluster = ofCluster cluster := by
  have h := (drawnWidth_flatten (Cluster.split text)).2
  rwa [Cluster.flatten_split, ← ofText_eq_sum] at h

/-- A text is drawn as wide as it is measured exactly if each of its clusters is one character that
takes a cell. -/
theorem measured_iff {text : List Char} :
    Measured text ↔
      ∀ cluster ∈ Cluster.split text, ∃ c, cluster = [c] ∧ 0 < Unicode.cellWidth c := by
  rw [measured_iff_clusters]
  exact forall₂_congr fun cluster h ↦ drawnWidth_eq_ofCluster_iff (Cluster.ne_nil_of_mem_split h)

/-! ### Texts that are cut -/

/-- As many clusters are taken as have room. -/
theorem drawnWidth_fitting_le {clusters : List (List Char)}
    (h : ∀ cluster ∈ clusters, drawnWidth cluster = ofCluster cluster) {room : Int}
    (hroom : 0 ≤ room) : (drawnWidth (fitting room clusters) : Int) ≤ room := by
  induction clusters generalizing room with
  | nil => exact hroom
  | cons cluster rest ih =>
    rw [fitting]
    split
    · exact hroom
    · next hfits =>
      have hfirst := h cluster List.mem_cons_self
      have hrest := ih (fun c hc ↦ h c (List.mem_cons_of_mem _ hc))
        (show 0 ≤ room - ofCluster cluster by omega)
      rw [drawnWidth_append]
      omega

/-- A text that is drawn as wide as it is measured is cut to the room there is for it. -/
theorem Measured.drawnWidth_truncate_le {text : List Char} (h : Measured text) {width : Int}
    (hwidth : 1 ≤ width) (hlimit : width < 2 ^ 63) :
    (drawnWidth (truncate text width) : Int) ≤ width := by
  unfold truncate
  split
  · next hfits =>
    rw [Measured] at h
    omega
  · have hellipsis : drawnWidth [ellipsis] = 1 := by decide +kernel
    have hfitting := drawnWidth_fitting_le (measured_iff_clusters.mp h)
      (show 0 ≤ width - 1 by omega)
    rw [wrap_eq (by omega) (by omega), drawnWidth_append, hellipsis]
    omega

end Width

end CodeViewer
