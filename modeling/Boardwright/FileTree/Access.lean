import Boardwright.Fault
import Boardwright.FileTree
import Boardwright.Path

/-!
# Work on a file tree by path

A path is followed name by name: every directory on the way has to exist, `..` leads to the
directory above, and a path that ends in a slash means a directory.  What cannot be done is refused
with a reason.  Work that fails stops where it is; what was done before stays done.
-/

namespace Boardwright

/-- Why something cannot be done. -/
inductive Refusal where
  | absent
  | notDirectory
  | isDirectory
  | alreadyThere
  | invalidPath
  | nameTooLong
  deriving DecidableEq, Repr

namespace Refusal

def text : Refusal → String
  | absent => "no such file or directory"
  | notDirectory => "not a directory"
  | isDirectory => "is a directory"
  | alreadyThere => "file exists"
  | invalidPath => "invalid argument"
  | nameTooLong => "file name too long"

/-- A refusal with the activity and the paths concerned. -/
def fault (r : Refusal) (activity : String) (path : String) : Fault :=
  .plain (activity ++ " " ++ path ++ ": " ++ r.text)

end Refusal

namespace FileTree

/-! ## Following a path -/

/-- One step into a directory. -/
def enter (t : FileTree) (dir : Location) (name : String) : Except Refusal Location :=
  if name = "" || name = "." then .ok dir
  else if name = ".." then .ok dir.dropLast
  else if 255 < name.utf8ByteSize then .error .nameTooLong
  else
    match t.get? (dir ++ [name]) with
    | none => .error .absent
    | some (.file _) => .error .notDirectory
    | some .directory => .ok (dir ++ [name])

/-- Where a path leads: into the directory `dir`, to `name` there.  A `closed` path has a slash at
its end.  Without a name the path means the directory itself. -/
structure Target where
  dir : Location
  name : Option String
  closed : Bool
  deriving DecidableEq, Repr

/-- Follows a path up to its last name. -/
def target (t : FileTree) (path : String) : Except Refusal Target := do
  if path = "" then throw .absent
  if path.toList.contains '\x00' then throw .invalidPath
  if 4096 ≤ path.utf8ByteSize then throw .nameTooLong
  let parts := Text.split '/' path
  let names := (parts.reverse.dropWhile (· = "")).reverse
  let start := if Path.isRooted path then [] else t.base
  let dir ← names.dropLast.foldlM t.enter start
  let closed := parts.getLast? = some ""
  match names.getLast? with
  | none => return { dir := start, name := none, closed }
  | some "." => return { dir, name := none, closed }
  | some ".." => return { dir := dir.dropLast, name := none, closed }
  | some name =>
    if 255 < name.utf8ByteSize then throw .nameTooLong
    return { dir, name := some name, closed }

/-- The place that a path leads to, whether or not something stands there. -/
def Target.location (g : Target) : Location := g.dir ++ g.name.toList

/-- What a path leads to. -/
def find (t : FileTree) (path : String) : Except Refusal (Location × Entry) := do
  let g ← t.target path
  match t.get? g.location with
  | none => throw .absent
  | some (.file content) =>
    if g.closed then throw .notDirectory
    return (g.location, .file content)
  | some .directory => return (g.location, .directory)

/-! ## Looking and changing -/

/-- The content of a file. -/
def read (t : FileTree) (path : String) : Except Fault String :=
  match t.find path with
  | .error r => .error (r.fault "open" path)
  | .ok (_, .directory) => .error (Refusal.isDirectory.fault "read" path)
  | .ok (_, .file content) => .ok content

/-- Makes one directory. -/
def makeDirectory (t : FileTree) (path : String) : Except Refusal FileTree := do
  let g ← t.target path
  match t.get? g.location with
  | some _ => throw .alreadyThere
  | none => return t.put g.location .directory

/-- Writes a file, in the place of an older one if there is one. -/
def writeFile (t : FileTree) (path content : String) : Except Refusal FileTree := do
  let g ← t.target path
  if g.closed then throw .isDirectory
  match t.get? g.location with
  | some .directory => throw .isDirectory
  | _ => return t.put g.location (.file content)

/-- Removes what a path leads to; it is no fault if that is nothing. -/
def discard (t : FileTree) (path : String) : FileTree :=
  match t.target path with
  | .error _ => t
  | .ok g => t.remove g.location

/-- Moves a file or directory to a place where nothing stands. -/
def rename (t : FileTree) (source dest : String) : Except Refusal FileTree := do
  let (loc, _) ← t.find source
  let g ← t.target dest
  return t.move loc g.location

end FileTree

/-! ## Jobs -/

/-- Work on a file tree that may fail. -/
abbrev Job (α : Type) := ExceptT Fault (StateM FileTree) α

namespace Job

/-- Changes the tree, or fails. -/
def change (f : FileTree → Except Fault FileTree) : Job Unit := do
  match f (← get) with
  | .error e => throw e
  | .ok t => set t

/-- The same work, with its fault reworded. -/
def rewording {α : Type} (f : Fault → Fault) (work : Job α) : Job α :=
  tryCatch work fun e => throw (f e)

/-- The same work with a remark in front of its fault. -/
def remarking {α : Type} (remark : String) (work : Job α) : Job α :=
  work.rewording (.wrapped remark)

/-- Does the work and then, whether or not it succeeded, changes the tree once more. -/
def thenAlways {α : Type} (work : Job α) (f : FileTree → FileTree) : Job α := do
  let outcome : Except Fault α ← (work.run : StateM FileTree _)
  modify f
  match outcome with
  | .error e => throw e
  | .ok a => return a

/-- Makes the directories at the given paths, which lie in one another, innermost first.  What is
there already stays. -/
def makeNested : List String → Job Unit
  | [] => pure ()
  | path :: outer => do
    match (← get).find path with
    | .ok (_, .directory) => pure ()
    | .ok (_, .file _) => throw (Refusal.notDirectory.fault "mkdir" path)
    | .error _ =>
      makeNested outer
      let t ← get
      match t.makeDirectory path, t.find path with
      | .ok t, _ => set t
      | .error _, .ok (_, .directory) => pure ()
      | .error r, _ => throw (r.fault "mkdir" path)

/-- The directories that a path runs through, as its components in reverse order, innermost first.
An empty path and the root are left out. -/
def enclosing : List String → List (List String)
  | [] => []
  | part :: rest =>
    if part = "" then enclosing rest
    else if rest = [] || rest = [""] then []
    else rest :: enclosing rest

/-- Makes a directory and all directories on the way to it. -/
def makeDirectories (path : String) : Job Unit :=
  let outer := (enclosing (Text.split '/' path).reverse).map fun rev => Text.join "/" rev.reverse
  makeNested (path :: outer)

/-- Writes a file into a directory that exists. -/
def create (path content : String) : Job Unit :=
  change fun t => (t.writeFile path content).mapError (·.fault "open" path)

end Job

end Boardwright
