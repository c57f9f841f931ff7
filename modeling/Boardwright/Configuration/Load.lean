import Boardwright.Configuration
import Boardwright.FileTree.Access
import Boardwright.Text.Case
import Boardwright.Toml.Strict
import Boardwright.Toml.Weak

/-!
# Where settings come from

A setting is looked up in four places: on the command line, in the environment, in a configuration
file and among the defaults.  The first one that has it decides.
-/

namespace Boardwright.Configuration

/-- The settings that can be made. -/
inductive Key where
  | root
  | client
  | server
  | project
  | templates
  | backends
  | level
  | development
  deriving DecidableEq, Repr, Inhabited

namespace Key

/-- The section that a setting belongs to. -/
def group? : Key → Option String
  | root | client | server | project => some "output"
  | templates | backends => none
  | level | development => some "log"

def name : Key → String
  | root => "root"
  | client => "client"
  | server => "server"
  | project => "project"
  | templates => "templates"
  | backends => "backends"
  | level => "level"
  | development => "development"

/-- The section, if there is one, and the name. -/
def path (k : Key) : List String := k.group?.toList ++ [k.name]

def all : List Key := [root, client, server, project, templates, backends, level, development]

/-- What holds if a setting is made nowhere. -/
def default (k : Key) : Toml.Item :=
  let c : Configuration := {}
  match k with
  | root => .string c.root
  | client => .string c.client
  | server => .string c.server
  | project => .string c.project
  | templates => .string c.templates
  | backends => .array (c.backends.map .string)
  | level => .string c.level
  | development => .boolean c.development

end Key

/-- Everything that settings are taken from. -/
structure Sources where
  flags : List (Key × Toml.Item) := []
  environment : List (String × String) := []
  file : Toml.Table := {}
  deriving Inhabited

namespace Sources

/-- The variable of the environment for a setting or a section. -/
def variableName (path : List String) : String := Text.join "_" ("BOARDGEN" :: path.map Text.upper)

/-- All variables that can matter. -/
def variableNames : List String :=
  (["output"] :: ["log"] :: Key.all.map Key.path).map variableName

/-- The value of the variable for a setting or a section.  An empty variable does not count. -/
def ambient? (s : Sources) (path : List String) : Option String :=
  (s.environment.lookup (variableName path)).filter (· != "")

/-- The item under a key, which is in lower case.  In the file it may be written with capitals, and
an entry with capitals goes before one without. -/
def item? (t : Toml.Table) (key : String) : Option Toml.Item :=
  let spelled := t.entries.find? fun e => Text.lower e.1 == key && e.1 != key
  (spelled.map (·.2.2)).or (t.get? key)

/-- The setting in the file, in its section or under its full name. -/
def inFile? (s : Sources) (k : Key) : Option Toml.Item :=
  match k.group? with
  | none => item? s.file k.name
  | some group =>
    (item? s.file (group ++ "." ++ k.name)).orElse fun _ =>
      match item? s.file group with
      | some (.table t) => item? t k.name
      | _ => none

/-- Whether a date stands in the file where a section is expected.  It counts as a section in which
all settings are empty. -/
def isDated (s : Sources) (group : String) : Bool :=
  match item? s.file group with
  | some .moment => true
  | _ => false

/-- The setting, from the first place that has it.  A variable for a whole section hides what the
file and the defaults have for it. -/
def find? (s : Sources) (k : Key) : Option Toml.Item :=
  match s.flags.lookup k, s.ambient? k.path with
  | some item, _ => some item
  | none, ambient =>
    if k.group?.any s.isDated then none
    else match ambient with
      | some text => some (.string text)
      | none =>
        if k.group?.any fun group => (s.ambient? [group]).isSome then none
        else some ((s.inFile? k).getD k.default)

/-- Whether the sections of the file are sections, or dates that no variable replaces. -/
def sectioned (s : Sources) : Bool :=
  ["output", "log"].all fun group =>
    match item? s.file group with
    | none | some (.table _) => true
    | some .moment => (s.ambient? [group]).isNone
    | _ => false

/-- All settings together, each read as what it has to be. -/
def configuration? (s : Sources) : Option Configuration := do
  guard s.sectioned
  let text (k : Key) : Option String := (s.find? k).elim (some "") (·.text?)
  return {
    root := ← text .root
    client := ← text .client
    server := ← text .server
    project := ← text .project
    templates := ← text .templates
    backends := ← (s.find? .backends).elim (some []) (·.texts?)
    level := ← text .level
    development := ← (s.find? .development).elim (some false) (·.boolean?) }

end Sources

/-! ## The configuration file -/

/-- The paths at which a configuration file is looked for. -/
def usualFiles : List String :=
  let endings := [".json", ".toml", ".yaml", ".yml", ".properties", ".props", ".prop", ".hcl",
    ".tfvars", ".dotenv", ".env", ".ini", ""]
  ["", "/etc/boardgen/"].flatMap fun dir => endings.map fun ending => dir ++ "boardgen" ++ ending

/-- The first of the usual files that is there. -/
def usualFile? (t : FileTree) : Option String :=
  usualFiles.find? fun path =>
    match t.find path with
    | .ok (_, .file _) => true
    | _ => false

/-- The content of a configuration file. -/
def readFile (t : FileTree) (path : String) : Except Fault Toml.Table :=
  let unreadable (cause : Fault) := fault "read configuration" [] (some cause)
  match t.read path with
  | .error cause => .error (unreadable cause)
  | .ok text =>
    match Toml.Strict.parse? text with
    | none => .error (unreadable (.plain "malformed TOML"))
    | some table => .ok table

/-- The configuration from the file at `path`, or from the usual one if the path is empty.  A file
that is asked for has to be there. -/
def load (t : FileTree) (path : String) (flags : List (Key × Toml.Item))
    (environment : List (String × String)) : Except Fault Configuration := do
  let path? := if path = "" then usualFile? t else some path
  let file ← (path?.map (readFile t)).getD (.ok {})
  match ({ flags, environment, file } : Sources).configuration? with
  | none => throw (fault "decode configuration" [] (some (.plain "unsuitable value")))
  | some c =>
    c.validate
    return c

end Boardwright.Configuration
