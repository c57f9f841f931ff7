import Boardwright.Text.Split

/-!
# File trees

The files that the generator reads and replaces, as a value.  A place in the tree is the list of
names that leads to it from the root; the tree keeps what stands at each place, and the place that
relative paths start from.

`get?` is the view of a tree: what stands at a place.  The root is always a directory.
-/

namespace Boardwright

/-- The names that lead from the root to a place, outermost first. -/
abbrev Location := List String

/-- The places on the way to `loc`, itself left out, outermost first. -/
def Location.above (loc : Location) : List Location :=
  (List.range loc.length).map fun n => loc.take n

/-- An ordered list with one more element, in front of the first that it is not after. -/
def insertBy {α : Type} (le : α → α → Bool) (a : α) : List α → List α
  | [] => [a]
  | b :: bs => if le a b then a :: b :: bs else b :: insertBy le a bs

/-- The elements in order. -/
def sortBy {α : Type} (le : α → α → Bool) : List α → List α
  | [] => []
  | a :: as => insertBy le a (sortBy le as)

theorem insertBy_perm {α : Type} (le : α → α → Bool) (a : α) (as : List α) :
    (insertBy le a as).Perm (a :: as) := by
  induction as with
  | nil => exact .refl _
  | cons b bs ih =>
    rw [insertBy]
    split
    · exact .refl _
    · exact (ih.cons b).trans (.swap a b bs)

theorem sortBy_perm {α : Type} (le : α → α → Bool) (as : List α) : (sortBy le as).Perm as := by
  induction as with
  | nil => exact .refl _
  | cons a as ih => exact (insertBy_perm le a (sortBy le as)).trans (ih.cons a)

/-- What can stand at a place. -/
inductive Entry where
  | file (content : String)
  | directory
  deriving DecidableEq, Repr, Inhabited

namespace Entry

def content? : Entry → Option String
  | file content => some content
  | directory => none

end Entry

structure FileTree where
  /-- The place that relative paths start from. -/
  base : Location := []
  entries : List (Location × Entry) := []
  deriving DecidableEq, Repr, Inhabited

namespace FileTree

/-- What stands at a place. -/
def get? (t : FileTree) (loc : Location) : Option Entry :=
  if loc = [] then some .directory else t.entries.lookup loc

/-- The content of the file at a place, if there is a file. -/
def content? (t : FileTree) (loc : Location) : Option String :=
  (t.get? loc).bind Entry.content?

/-- The tree with `e` at a place, whatever stood there. -/
def put (t : FileTree) (loc : Location) (e : Entry) : FileTree :=
  { t with entries := (loc, e) :: t.entries.filter (·.1 != loc) }

/-- The tree without a place and everything below it. -/
def remove (t : FileTree) (loc : Location) : FileTree :=
  { t with entries := t.entries.filter fun (l, _) => !loc.isPrefixOf l }

/-- The tree in which everything at and below `source` stands at and below `dest`. -/
def move (t : FileTree) (source dest : Location) : FileTree :=
  let place (loc : Location) : Location :=
    if source.isPrefixOf loc then dest ++ loc.drop source.length else loc
  { t with entries := t.entries.map fun (l, e) => (place l, e) }

/-- The names in a directory, in order. -/
def children (t : FileTree) (dir : Location) : List String :=
  sortBy (fun a b => decide (a ≤ b)) (t.entries.filterMap fun (l, _) =>
    if l.dropLast = dir then l.getLast? else none)

/-- The files below a place, in order of their places relative to it. -/
def below (t : FileTree) (dir : Location) : List (Location × String) :=
  sortBy (fun a b => !List.lex b.1 a.1 fun x y => decide (x < y))
    (t.entries.filterMap fun (l, e) =>
      if dir.isPrefixOf l && dir != l then e.content?.map fun c => (l.drop dir.length, c) else none)

/-! ## Building a tree -/

/-- The tree with directories at all the given places. -/
def withDirectories (t : FileTree) (locs : List Location) : FileTree :=
  (locs.filter (· != [])).foldl (fun t loc => t.put loc .directory) t

/-- The tree with one more file below the base, in directories made for it.  A name with a slash at
its end stands for a directory. -/
def withFile (t : FileTree) (name content : String) : FileTree :=
  let parts := Text.split '/' name
  let loc := t.base ++ parts.filter (· != "")
  if parts.getLast? = some "" then t.withDirectories (Location.above loc ++ [loc])
  else (t.withDirectories (Location.above loc)).put loc (.file content)

/-- A tree with the given files below the base, each under its slash-separated name. -/
def ofFiles (base : Location) (files : List (String × String)) : FileTree :=
  files.foldl (fun t (name, content) => t.withFile name content)
    (({ base } : FileTree).withDirectories (Location.above base ++ [base]))

end FileTree

end Boardwright
