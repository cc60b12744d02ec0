import CodeViewer.Screen.Cluster
import CodeViewer.Screen.Coordinate

/-!
# The room a text takes

The room of a text is measured in cells. A cluster takes the room of its first character that
takes any.
-/

namespace CodeViewer.Width

/-- The cells of a cluster. -/
def ofCluster (cluster : List Char) : Nat :=
  ((cluster.map Unicode.cellWidth).find? (0 < ·)).getD 0

/-- The cells of a text. -/
def ofText (text : List Char) : Nat :=
  (Cluster.split text).foldl (fun cells cluster ↦ cells + ofCluster cluster) 0

/-- As many clusters as fit into `room` cells, from the first on. -/
def fitting : (room : Int) → List (List Char) → List Char
  | _, [] => []
  | room, cluster :: more =>
    if room < ofCluster cluster then []
    else cluster ++ fitting (room - ofCluster cluster) more

/-- What stands for the part of a text that is cut off. -/
def ellipsis : Char := '…'

/-- A text cut to `width` cells, with an ellipsis if anything is cut off. The ellipsis stands
even where there is no room for it. -/
def truncate (text : List Char) (width : Int) : List Char :=
  if (ofText text : Int) ≤ width then text
  else fitting (wrap (width - 1)) (Cluster.split text) ++ [ellipsis]

end CodeViewer.Width
