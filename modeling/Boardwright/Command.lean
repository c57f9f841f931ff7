import Boardwright.Board.Load
import Boardwright.Command.Candidates
import Boardwright.Configuration.Load
import Boardwright.Generate
import Boardwright.Output
import Boardwright.Terminal.Markup

/-!
# The command line

A call of the program: arguments, environment and files go in; an exit code, the text for the
terminal and the files as they are afterwards come out.
-/

namespace Boardwright.Command

/-- What comes out of a call. -/
structure Outcome where
  exit : Nat := 0
  output : String := ""
  tree : FileTree
  deriving Inhabited

/-- A message below a heading. -/
def message (heading text : String) : String := heading ++ Terminal.plain (" " ++ text ++ "\n")

/-- The lines for a fault: one for each single fault, and their number if there are several. -/
def diagnostics (f : Fault) : String :=
  let faults := f.flatten
  String.join (faults.map fun f => message f.tag f.text) ++
    if 1 < faults.length then toString faults.length ++ " errors\n" else ""

def versionText : String := "boardgen dev (go)\n"

def usage : String :=
  "Usage:\n  boardgen generate <board.toml> [flags]\n  boardgen inspect <board.toml> [flags]\n" ++
    "  boardgen version\n"

/-- Whether there is help for what the arguments name. -/
def isTopic (args : List String) : Bool :=
  match split args with
  | .ok (some (.complete _), _) => false
  | .ok _ => true
  | .error _ => false

/-- The names of backends as they count.  A single empty name counts as none, and inside a name a
carriage return before a line feed is dropped. -/
def backends (names : List String) : List String :=
  if names = [""] then [] else names.map fun name => String.ofList (Text.unifyEnds name.toList)

/-- The settings made by flags. -/
def settings (g : Given) : List (Configuration.Key × Toml.Item) :=
  let text (key : Configuration.Key) (f : Flag) := (g.last? f).toList.map fun s => (key, Toml.Item.string s)
  let names := backends ((g.all .backend).flatMap fun s => (namesOf s).toOption.getD [])
  text .root .output ++ text .templates .templates ++ text .level .logLevel ++
    (if (g.all .dev).isEmpty then [] else [(.development, .boolean (g.isOn .dev))]) ++
    if (g.all .backend).isEmpty then [] else [(.backends, .array (names.map .string))]

/-- The configuration of a call.  Its log level has to be valid. -/
def configure (g : Given) (environment : List (String × String)) (t : FileTree) :
    Except Fault Configuration := do
  let c ← Configuration.load t ((g.last? .config).getD "") (settings g) environment
  let _ ← c.logLevel
  return c

/-- Generates everything for the board at `path`, and writes it unless it is only to be listed. -/
def generate (c : Configuration) (path : String) (listOnly : Bool) : Job String := do
  let b ← MonadExcept.ofExcept (Board.load (← get) path)
  let results ← MonadExcept.ofExcept (Boardwright.generate b c.selected)
  let paths := results.flatMap Result.paths
  if listOnly then return String.join (paths.map (message "Plan"))
  Output.write c.root results
  return message "Done" (toString paths.length ++ " artifacts written to " ++ c.root)

/-- Carries out a verb that understands flags. -/
def perform (verb : Option Verb) (args : List String) (environment : List (String × String)) :
    Job String := do
  let g ← MonadExcept.ofExcept (parse (flagsOf verb) args)
  if g.isOn .help then return usage
  let one : Job String := match g.args with
    | [path] => return path
    | args => throw (.plain ("accepts 1 arg(s), received " ++ toString args.length))
  let none_ (verb : Verb) : Job Unit := match g.args with
    | [] => return
    | word :: _ => throw (unknownWord word verb.title)
  let configured : Job Configuration := do
    MonadExcept.ofExcept (configure g environment (← get))
  match verb with
  | some .generate =>
    let path ← one
    generate (← configured) path (g.isOn .dryRun)
  | some .inspect =>
    let _ ← one
    let _ ← configured
    throw (Configuration.fault "inspect needs an interactive terminal")
  | some .version =>
    none_ .version
    return versionText
  | some (.script shell) =>
    none_ (.script shell)
    let _ ← configured
    return ""
  | some .help =>
    let _ ← configured
    return if isTopic g.args then usage else ""
  | _ => return usage

/-- Lists how an unfinished command line can go on.  Its flags do not count for the call itself. -/
def complete (described : Bool) (args : List String) (environment : List (String × String)) :
    Job String := do
  if args.isEmpty then throw (.plain "requires at least 1 arg(s), only received 0")
  let _ ← MonadExcept.ofExcept (configure {} environment (← get))
  return (candidates args.dropLast (args.getLast?.getD "")).text described

/-- A call with the given arguments and environment on a file tree. -/
def run (args : List String) (environment : List (String × String)) (t : FileTree) : Outcome :=
  let job : Job String := do
    match ← MonadExcept.ofExcept (split args) with
    | (some (.complete described), args) => complete described args environment
    | (verb, args) => perform verb args environment
  match (ExceptT.run job).run t with
  | (.ok output, tree) => { output, tree }
  | (.error f, tree) => { exit := 1, output := diagnostics f, tree }

end Boardwright.Command
