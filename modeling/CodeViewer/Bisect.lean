/-!
# Bisection
-/

namespace CodeViewer

/-- The first index from `lo` on and before `hi` at which `p` holds, or else `hi`, if `p` holds
from some index on. The bounds come closer each time, so their distance is enough `fuel`. -/
def bisectFrom (p : Nat → Bool) : (fuel lo hi : Nat) → Nat
  | 0, lo, _ => lo
  | fuel + 1, lo, hi =>
    if lo < hi then
      let mid := (lo + hi) / 2
      if p mid then bisectFrom p fuel lo mid else bisectFrom p fuel (mid + 1) hi
    else lo

/-- The first index before `n` at which `p` holds, or else `n`, if `p` holds from some index
on. -/
def bisect (p : Nat → Bool) (n : Nat) : Nat := bisectFrom p n 0 n

/-- The first element that satisfies `p`, if all elements behind it do, too. -/
def bisectFind? {α : Type} (xs : Array α) (p : α → Bool) : Option α :=
  xs[bisect (fun i ↦ xs[i]?.any p) xs.size]?

end CodeViewer
