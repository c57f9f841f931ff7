import Boardwright.FileTree

/-!
# Differences between file trees

What has to be done, step by step, to turn one tree into another: first everything that is gone is
removed, inner places before outer ones, then directories are made, outer ones first, and files
are written.
-/

namespace Boardwright.FileTree

/-- One step. -/
inductive Change where
  | removeFile (loc : Location)
  | removeDirectory (loc : Location)
  | makeDirectory (loc : Location)
  | writeFile (loc : Location) (content : String)
  deriving DecidableEq, Repr

namespace Change

def removal : Location × Entry → Change
  | (loc, .file _) => removeFile loc
  | (loc, .directory) => removeDirectory loc

def creation : Location × Entry → Change
  | (loc, .file content) => writeFile loc content
  | (loc, .directory) => makeDirectory loc

/-- The tree after a step. -/
def apply (t : FileTree) : Change → FileTree
  | removeFile loc => t.remove loc
  | removeDirectory loc => t.remove loc
  | makeDirectory loc => t.put loc .directory
  | writeFile loc content => t.put loc (.file content)

end Change

/-- The steps that lead from `before` to `after`. -/
def changes (before after : FileTree) : List Change :=
  let shallow (a b : Location × Entry) := decide (a.1.length ≤ b.1.length)
  let gone := before.entries.filter fun (loc, e) =>
    match e, after.get? loc with
    | .file _, some (.file _) => false
    | e, found => found != some e
  let new := after.entries.filter fun (loc, e) => before.get? loc != some e
  (gone.mergeSort shallow).reverse.map Change.removal ++ (new.mergeSort shallow).map Change.creation

end Boardwright.FileTree
