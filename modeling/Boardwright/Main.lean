import Boardwright.Command
import Boardwright.FileTree.Difference

/-!
# The program

Reads the files around the working directory, carries out the command on them as a value, and
brings the files up to date.
-/

namespace Boardwright.Program

/-- The path of a place. -/
def pathOf (loc : Location) : String := "/" ++ Text.join "/" loc

/-- The place of an absolute path. -/
def locationOf (path : String) : Location := Path.components path

/-- Adds what is at and below a path to a tree.  Links to directories and files that are no text
are left out. -/
partial def snapshot (t : FileTree) (path : String) : IO FileTree := do
  let real ← IO.FS.realPath path
  if real.toString != path then return t
  if ← real.isDir then
    let mut t := t.withDirectories ((Location.above (locationOf path)) ++ [locationOf path])
    for inner in ← real.readDir do
      t ← snapshot t inner.path.toString
    return t
  else
    try
      let content ← IO.FS.readFile path
      return t.put (locationOf path) (.file content)
    catch _ => return t

/-- The working directory, the place of the shared configuration, and what the arguments name. -/
def gather (args : List String) : IO FileTree := do
  let here := (← IO.currentDir).toString
  let named := args.filter Path.isRooted
  let mut t : FileTree := { base := locationOf here }
  for path in here :: "/etc/boardgen" :: named do
    try t ← snapshot t path catch _ => pure ()
  return t

/-- The variables of the environment that matter. -/
def environment : IO (List (String × String)) := do
  let mut found := []
  for name in Configuration.Sources.variableNames do
    if let some value ← IO.getEnv name then found := found ++ [(name, value)]
  return found

def carryOut : FileTree.Change → IO Unit
  | .removeFile loc => IO.FS.removeFile (pathOf loc)
  | .removeDirectory loc => IO.FS.removeDirAll (pathOf loc)
  | .makeDirectory loc => IO.FS.createDirAll (pathOf loc)
  | .writeFile loc content => IO.FS.writeFile (pathOf loc) content

end Boardwright.Program

open Boardwright in
def main (args : List String) : IO UInt32 := do
  let before ← Program.gather args
  let outcome := Command.run args (← Program.environment) before
  for change in before.changes outcome.tree do
    Program.carryOut change
  IO.print outcome.output
  return .ofNat outcome.exit
