import Boardwright.Fault
import Boardwright.Text.Record
import Boardwright.Toml.Weak

/-!
# Flags on the command line

A flag has a long name after two dashes and may have a letter after one dash.  Its value follows
after `=`, as the next argument or, for a letter, at once; a switch needs no value.  Letters can be
run together.  Flags and other arguments may be mixed; after `--` there are no more flags.  What
begins with `test.` in the place of a letter is passed over.
-/

namespace Boardwright.Command

inductive Flag where
  | config
  | logLevel
  | dev
  | backend
  | templates
  | output
  | dryRun
  | noDescriptions
  | help
  deriving DecidableEq, Repr, Inhabited

namespace Flag

def name : Flag → String
  | config => "config"
  | logLevel => "log-level"
  | dev => "dev"
  | backend => "backend"
  | templates => "templates"
  | output => "output"
  | dryRun => "dry-run"
  | noDescriptions => "no-descriptions"
  | help => "help"

def letter? : Flag → Option Char
  | config => some 'c'
  | backend => some 'b'
  | output => some 'o'
  | help => some 'h'
  | _ => none

/-- A switch is on or off and is on if it has no value. -/
def isSwitch : Flag → Bool
  | dev | dryRun | noDescriptions | help => true
  | _ => false

/-- What a flag is for; `owner` is the command that it is given to. -/
def description (owner : String) : Flag → String
  | config => "configuration file (default: ./boardgen.toml, /etc/boardgen/boardgen.toml)"
  | logLevel => "log level (debug, info, warn, error)"
  | dev => "human readable development logging"
  | backend => "backends to run"
  | templates => "template root holding server/ and project/"
  | output => "output root"
  | dryRun => "list the artifacts without writing them"
  | noDescriptions => "disable completion descriptions"
  | help => "help for " ++ owner

/-- The flag as it is called in messages. -/
def title (f : Flag) : String :=
  let long := "--" ++ f.name
  (f.letter?.map fun c => "-" ++ String.singleton c ++ ", " ++ long).getD long

end Flag

/-- The values that flags were given, first to last, and the other arguments. -/
structure Given where
  values : List (Flag × String) := []
  args : List String := []
  deriving DecidableEq, Repr, Inhabited

namespace Given

def all (g : Given) (f : Flag) : List String :=
  g.values.filterMap fun (f', value) => if f' = f then some value else none

/-- The value that counts if a flag can have only one. -/
def last? (g : Given) (f : Flag) : Option String := (g.all f).getLast?

/-- Whether a switch is on. -/
def isOn (g : Given) (f : Flag) : Bool :=
  ((g.last? f).bind Toml.Item.truth?).getD false

end Given

/-! ## Reading -/

/-- What is known when a part of the arguments was read. -/
structure Scan where
  given : Given := {}
  /-- A flag that waits for its value, and the fault if there is none. -/
  waiting : Option (Flag × Fault) := none
  /-- No more flags follow. -/
  closed : Bool := false
  deriving Inhabited

/-- The letter of a flag in quotes.  Of a letter with several bytes the first byte is shown. -/
def quoteLetter (c : Char) : String :=
  let c := ((String.utf8EncodeChar c).head?.map fun b => Char.ofNat b.toNat).getD c
  let body := if c = '\x27' then ['\\', c] else if c = '"' then [c] else Text.escape c
  "'" ++ String.ofList body ++ "'"

/-- The names in a value of the flag for backends, which is empty or a record. -/
def namesOf (value : String) : Except Text.Record.Flaw (List String) :=
  if value = "" then .ok [] else Text.Record.read value

/-- What is wrong with a value.  A switch takes truth values only, and the flag for backends takes
records. -/
def objection? (f : Flag) (value : String) : Option String :=
  if f.isSwitch then
    if (Toml.Item.truth? value).isSome then none
    else some ("strconv.ParseBool: parsing " ++ Text.quote value ++ ": invalid syntax")
  else if f = .backend then
    match namesOf value with
    | .ok _ => none
    | .error flaw => some flaw.text
  else none

namespace Scan

/-- Gives a flag a value. -/
def assign (s : Scan) (f : Flag) (value : String) : Except Fault Scan :=
  match objection? f value with
  | some reason =>
    .error (.plain ("invalid argument " ++ Text.quote value ++ " for " ++ Text.quote f.title ++
      " flag: " ++ reason))
  | none =>
    let given := { s.given with values := s.given.values ++ [(f, value)] }
    .ok { s with given, waiting := none }

/-- A flag with its long name. -/
def long (flags : List Flag) (s : Scan) (arg : String) : Except Fault Scan :=
  let chars := arg.toList.drop 2
  let name := String.ofList (chars.takeWhile (· != '='))
  if chars.head?.any fun c => c == '-' || c == '=' then .error (.plain ("bad flag syntax: " ++ arg))
  else
    match flags.find? (·.name == name), chars.dropWhile (· != '=') with
    | none, _ => .error (.plain ("unknown flag: --" ++ name))
    | some f, _ :: value => s.assign f (String.ofList value)
    | some f, [] =>
      if f.isSwitch then s.assign f "true"
      else .ok { s with waiting := some (f, .plain ("flag needs an argument: " ++ arg)) }

/-- Flags by their letters. -/
def letters (flags : List Flag) (s : Scan) : List Char → Except Fault Scan
  | [] => .ok s
  | c :: rest =>
    let place := quoteLetter c ++ " in -" ++ String.ofList (c :: rest)
    if ['t', 'e', 's', 't', '.'].isPrefixOf (c :: rest) then .ok s
    else match flags.find? (·.letter? == some c) with
    | none => .error (.plain ("unknown shorthand flag: " ++ place))
    | some f =>
      if rest.head? = some '=' && 1 < rest.length then s.assign f (String.ofList (rest.drop 1))
      else if f.isSwitch then
        match s.assign f "true" with
        | .error e => .error e
        | .ok s => letters flags s rest
      else if rest.isEmpty then
        .ok { s with waiting := some (f, .plain ("flag needs an argument: " ++ place)) }
      else s.assign f (String.ofList rest)

/-- Reads one argument. -/
def read (flags : List Flag) (s : Scan) (arg : String) : Except Fault Scan :=
  match s.waiting, arg.toList with
  | some (f, _), _ => s.assign f arg
  | none, '-' :: c :: rest =>
    if s.closed then .ok { s with given := { s.given with args := s.given.args ++ [arg] } }
    else if c = '-' then if rest.isEmpty then .ok { s with closed := true } else s.long flags arg
    else s.letters flags (c :: rest)
  | none, _ => .ok { s with given := { s.given with args := s.given.args ++ [arg] } }

end Scan

/-- The flags and arguments of a command that understands the given flags. -/
def parse (flags : List Flag) (args : List String) : Except Fault Given := do
  let s ← args.foldlM (Scan.read flags) {}
  match s.waiting with
  | some (_, fault) => throw fault
  | none => return s.given

end Boardwright.Command
