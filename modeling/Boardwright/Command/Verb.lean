import Boardwright.Command.Flag
import Boardwright.Text.Case
import Boardwright.Text.Distance

/-!
# Verbs

What the program can be asked to do.  The verb of a call is the first argument that is neither a
flag nor the value of one; for the verb `completion` the next such argument is the shell.
-/

namespace Boardwright.Command

/-- A shell that can complete command lines by a script. -/
inductive Shell where
  | bash
  | fish
  | powershell
  | zsh
  deriving DecidableEq, Repr, Inhabited

def Shell.name : Shell → String
  | bash => "bash"
  | fish => "fish"
  | powershell => "powershell"
  | zsh => "zsh"

inductive Verb where
  | generate
  | inspect
  | version
  | completion
  /-- Completion for one shell.  The script itself is not written here. -/
  | script (shell : Shell)
  | help
  /-- Asks how an unfinished command line can go on, with or without descriptions. -/
  | complete (described : Bool)
  deriving DecidableEq, Repr, Inhabited

namespace Verb

def name : Verb → String
  | generate => "generate"
  | inspect => "inspect"
  | version => "version"
  | completion => "completion"
  | script shell => shell.name
  | help => "help"
  | complete described => if described then "__complete" else "__completeNoDesc"

/-- The verb as it is called in messages. -/
def title : Verb → String
  | script shell => "boardgen completion " ++ shell.name
  | verb => "boardgen " ++ verb.name

/-- What a verb is for. -/
def summary : Verb → String
  | generate => "Run the selected backends and write their output"
  | inspect => "Browse the generated artifacts without writing them"
  | version => "Print the boardgen version"
  | completion => "Generate the autocompletion script for the specified shell"
  | script shell => "Generate the autocompletion script for " ++ shell.name
  | help => "Help about any command"
  | complete _ => "Request shell completion choices for the specified command-line"

/-- The verbs that can follow a verb, or start a call, in order of their names. -/
def below : Option Verb → List Verb
  | none => [completion, generate, help, inspect, version]
  | some completion => [script .bash, script .fish, script .powershell, script .zsh]
  | _ => []

/-- The verbs that are suggested for a word that is none. -/
def suggested : List Verb := [generate, inspect, version, completion]

/-- The verb of a name behind a verb, or at the start of a call. -/
def ofName? (owner : Option Verb) (name : String) : Option Verb :=
  let hidden := if owner.isNone then [complete true, complete false] else []
  (below owner ++ hidden).find? (·.name == name)

end Verb

/-- The flags that every verb understands, in order of their names. -/
def sharedFlags : List Flag := [.backend, .config, .dev, .logLevel, .templates]

/-- The flags of a verb of its own, or of a call without one. -/
def ownFlags : Option Verb → List Flag
  | some .generate => [.dryRun, .help, .output]
  | some (.script _) => [.help, .noDescriptions]
  | _ => [.help]

/-- The flags that a verb, or a call without one, understands. -/
def flagsOf (verb : Option Verb) : List Flag := sharedFlags ++ ownFlags verb

/-! ## Finding the verb -/

/-- Whether an argument is a flag whose value is the next argument.  Flags that are not shared
count as such. -/
def takesNext (arg : String) : Bool :=
  let switches := sharedFlags.filter (·.isSwitch)
  !arg.toList.contains '=' &&
    match arg.toList with
    | '-' :: '-' :: name => !switches.any (·.name == String.ofList name)
    | ['-', c] => c.toNat < 0x80 && !switches.any (·.letter? == some c)
    | _ => false

/-- The first argument that is neither a flag nor the value of one, and all other arguments.  If
`skip` holds, a value comes first. -/
def takeWord (skip : Bool) : List String → Option (String × List String)
  | [] => none
  | arg :: rest =>
    let later (skip : Bool) := (takeWord skip rest).map fun (word, others) => (word, arg :: others)
    if skip then later false
    else if arg = "--" then none
    else if takesNext arg then later true
    else if arg = "" || arg.toList.head? = some '-' then later false
    else some (arg, rest)

/-- The verbs that a mistyped word may stand for: those that begin with it, and those that differ
from it in two letters at most. -/
def suggestions (word : String) : List Verb :=
  let typed := (Text.lower word).toUTF8.toList
  Verb.suggested.filter fun verb =>
    let name := verb.name.toUTF8.toList
    Text.distance typed name ≤ 2 || typed.isPrefixOf name

def unknownWord (word owner : String) : Fault :=
  .plain ("unknown command " ++ Text.quote word ++ " for " ++ Text.quote owner)

/-- The fault for a word that is no verb. -/
def unknownVerb (word : String) : Fault :=
  let names := (suggestions word).map fun verb => "\t" ++ verb.name ++ "\n"
  let hint := if names.isEmpty then "" else "\n\nDid you mean this?\n" ++ String.join names
  .plain ((unknownWord word "boardgen").text ++ hint)

/-- The verb that follows in the arguments behind a verb, or at the start, and the arguments without
it. -/
def descend (owner : Option Verb) (args : List String) : Option Verb × List String :=
  match takeWord false args with
  | none => (owner, args)
  | some (word, others) =>
    match Verb.ofName? owner word with
    | some verb => (some verb, others)
    | none => (owner, args)

/-- The verb of a call, if it has one, and the arguments without it. -/
def split (args : List String) : Except Fault (Option Verb × List String) :=
  match descend none args with
  | (some verb, others) => .ok (descend verb others)
  | (none, args) =>
    match takeWord false args with
    | some (word, _) => .error (unknownVerb word)
    | none => .ok (none, args)

end Boardwright.Command
