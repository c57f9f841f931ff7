import Boardwright.Board.Decode
import Boardwright.FileTree.Access

/-!
# Loading a board

A board is read from a file and decoded under the path by which it was asked for.
-/

namespace Boardwright.Board

/-- The board that the file at `path` describes. -/
def load (t : FileTree) (path : String) : Except Fault Board :=
  match t.read path with
  | .error cause =>
    .error (.report { phase := .load, kind := .io, pos := { file := path }
                      detail := "read board" } (some cause))
  | .ok text => decode path text

end Boardwright.Board
