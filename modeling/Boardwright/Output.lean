import Boardwright.Artifact
import Boardwright.FileTree.Access

/-!
# Writing results

Results are written below an output root in two stages.  All files go into a staging directory
first; then each entry of it takes the place of the entry of that name below the root.  In the end
the staging directory is discarded, also after a fault, and with it all that was written into it.
Paths are joined to that directory as they are: one that climbs with `..` leaves it.
-/

namespace Boardwright.Output

/-- A fault of this phase. -/
def fault (detail : String) (cause : Fault) (backend : String := "") : Fault :=
  .report { phase := .output, kind := .io, backend, detail } (some cause)

/-! ## Filling the staging directory -/

/-- Writes one file below a directory, in directories made for it. -/
def store (dir : String) (f : OutputFile) : Job Unit := do
  let path := Path.join [dir, f.path]
  (Job.makeDirectories (Path.parent path)).remarking ("create directory for " ++ f.path)
  (Job.create path f.content).remarking ("create " ++ f.path)

/-- Copies a file below a directory.  The copy is there, and empty, before the file is read, so
that a file which is its own copy is lost. -/
def copyFile (dir source dest : String) : Job Unit := do
  match (← get).find source with
  | .error r => throw (.wrapped ("open template " ++ source) (r.fault "open" source))
  | .ok (loc, _) =>
    store dir { path := dest, content := "" }
    store dir { path := dest, content := ((← get).content? loc).getD "" }

/-- Copies all files below a directory in order of their names.  Each directory is read when its
turn comes.  A path that leads through more directories than `depth` is too long. -/
def copyBelow (dir : String) : Nat → String → String → Job Unit
  | 0, source, _ =>
    throw (.wrapped ("deploy " ++ source) (Refusal.nameTooLong.fault "open" source))
  | depth + 1, source, dest => do
    let t ← get
    match t.find source with
    | .error r => throw (.wrapped ("deploy " ++ source) (r.fault "open" source))
    | .ok (loc, _) =>
      (t.children loc).forM fun name =>
        let inner := Path.join [source, name]
        let copy := Path.join [dest, name]
        match t.get? (loc ++ [name]) with
        | some .directory => copyBelow dir depth inner copy
        | _ => copyFile dir inner copy

/-- Copies the source of a deployment, a file or a directory.  No path is long enough to lead
through `4096` directories. -/
def deploy (dir : String) (d : Deployment) : Job Unit := do
  match (← get).find d.source with
  | .error r => throw (.wrapped ("deploy " ++ d.source) (r.fault "stat" d.source))
  | .ok (_, .file _) => copyFile dir d.source d.dest
  | .ok (_, .directory) => copyBelow dir 4096 d.source d.dest

/-- Writes everything that belongs to one result. -/
def storeResult (dir : String) (r : Result) : Job Unit := do
  r.files.forM (store dir)
  r.deploy.forM (deploy dir)

def fill (dir : String) (results : List Result) : Job Unit :=
  results.forM fun r =>
    (storeResult dir r).rewording fun e => fault ("write " ++ r.backend ++ " output") e r.backend

/-! ## Staging and publishing -/

/-- The name of a staging directory. -/
def stageName (number : Nat) : String := ".boardgen-" ++ toString number

/-- The path of a staging directory below the root. -/
def stagePath (root : String) (number : Nat) : String :=
  let slash := if root.toList.getLast? = some '/' then "" else "/"
  root ++ slash ++ stageName number

/-- All names in the tree, in the path of the root and in the paths of the results. -/
def mentioned (t : FileTree) (root : String) (results : List Result) : List String :=
  let paths := results.flatMap fun r => r.paths ++ r.deploy.flatMap fun d => [d.source, d.dest]
  t.base ++ t.entries.flatMap (·.1) ++ (root :: paths).flatMap (Text.split '/')

/-- A number that gives the staging directory a new name, one that is mentioned nowhere.  Of one
more number than there are names, one does. -/
def stageNumber (t : FileTree) (root : String) (results : List Result) : Nat :=
  let names := mentioned t root results
  ((List.range (names.length + 1)).find? fun n => !names.contains (stageName n)).getD 0

/-- Makes an empty staging directory and gives its path. -/
def makeStage (root : String) (number : Nat) : Job String := do
  let path := stagePath root number
  Job.change fun t => (t.makeDirectory path).mapError (·.fault "mkdir" path)
  return path

/-- Moves one entry of the staging directory into the root, in the place of what stood there. -/
def publishEntry (stage root name : String) : Job Unit := do
  let source := Path.join [stage, name]
  let dest := Path.join [root, name]
  modify (·.discard dest)
  (Job.change fun t => (t.rename source dest).mapError (·.fault "rename" (source ++ " " ++ dest))).rewording
    (fault ("publish " ++ dest))

/-- Moves every entry of the staging directory into the root. -/
def publish (stage root : String) : Job Unit := do
  let t ← get
  match t.find stage with
  | .error r => throw (fault "read staging directory" (r.fault "open" stage))
  | .ok (loc, _) => (t.children loc).forM (publishEntry stage root)

/-- Writes all results below `root`, by way of the staging directory with a given number. -/
def writeVia (number : Nat) (root : String) (results : List Result) : Job Unit := do
  (Job.makeDirectories root).rewording (fault "create output root")
  let stage ← (makeStage root number).rewording (fault "create staging directory")
  Job.thenAlways (do fill stage results; publish stage root) (·.discard stage)

/-- Writes all results below `root`. -/
def write (root : String) (results : List Result) : Job Unit := do
  writeVia (stageNumber (← get) root results) root results

end Boardwright.Output
