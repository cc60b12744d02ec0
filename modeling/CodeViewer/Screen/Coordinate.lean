/-!
# Coordinates

Columns, rows and sizes are signed numbers of 64 bits. A sum that leaves their range comes back
into it at the other end.
-/

namespace CodeViewer

/-- The coordinate a sum stands for: the one that differs from it by a multiple of 2⁶⁴. -/
def wrap (n : Int) : Int := n.bmod 18446744073709551616

end CodeViewer
