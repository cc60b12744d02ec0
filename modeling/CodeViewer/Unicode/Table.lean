/-!
# Tables of code points

A property of characters is a table of ranges in ascending order, looked up by bisection.
Three shapes occur: plain ranges, ranges that take every `step`-th code point, and ranges
moved to another place (case mappings).
-/

namespace CodeViewer.Unicode

/-- Bisect `entries` between the indices `lo` and `hi` for an entry whose range, given by
`range`, holds `n`. Every round halves the gap, so `fuel` may be any number above its
logarithm; the callers pass the size of the table. -/
def bisect {α : Type} (entries : Array α) (range : α → Nat × Nat) (n : Nat) :
    (fuel lo hi : Nat) → Option α
  | 0, _, _ => none
  | fuel + 1, lo, hi =>
    if hi ≤ lo then none
    else
      let mid := (lo + hi) / 2
      match entries[mid]? with
      | none => none
      | some e =>
        if n < (range e).1 then bisect entries range n fuel lo mid
        else if (range e).2 < n then bisect entries range n fuel (mid + 1) hi
        else some e

/-- Disjoint ranges in ascending order; both ends belong to a range. -/
structure RangeTable where
  ranges : Array (Nat × Nat)

/-- Whether some range of the table holds the code point. -/
def RangeTable.contains (t : RangeTable) (n : Nat) : Bool :=
  (bisect t.ranges id n t.ranges.size 0 t.ranges.size).isSome

/-- Disjoint ranges `(first, last, step)` in ascending order, of which every `step`-th code
point from `first` on belongs to the set. -/
structure StrideTable where
  ranges : Array (Nat × Nat × Nat)

/-- Whether the code point is one of those a range of the table picks. -/
def StrideTable.contains (t : StrideTable) (n : Nat) : Bool :=
  match bisect t.ranges (fun r ↦ (r.1, r.2.1)) n t.ranges.size 0 t.ranges.size with
  | none => false
  | some (first, _, step) => (n - first) % step == 0

/-- Disjoint ranges `(first, last, step, target)` in ascending order: `first` is mapped to
`target`, and every `step`-th code point after it as far behind `target`. -/
structure CaseTable where
  ranges : Array (Nat × Nat × Nat × Nat)

/-- The image of a code point; what the table does not list stays as it is. -/
def CaseTable.map (t : CaseTable) (n : Nat) : Nat :=
  match bisect t.ranges (fun r ↦ (r.1, r.2.1)) n t.ranges.size 0 t.ranges.size with
  | none => n
  | some (first, _, step, target) =>
    if (n - first) % step == 0 then target + (n - first) else n

/-- The image of a character; an image that is no character leaves it as it is. -/
def CaseTable.mapChar (t : CaseTable) (c : Char) : Char :=
  let n := t.map c.toNat
  if n.isValidChar then Char.ofNat n else c

end CodeViewer.Unicode
