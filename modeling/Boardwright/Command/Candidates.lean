import Boardwright.Command.Verb

/-!
# Going on with a command line

A shell asks how a command line can go on whose last argument is unfinished: by a verb or by a flag,
each with a description.  The answer ends with a number that tells the shell whether to offer the
names of files as well.
-/

namespace Boardwright.Command

/-- How a command line can go on. -/
structure Candidates where
  /-- Words and what they are for. -/
  words : List (String × String) := []
  /-- The shell should not offer the names of files. -/
  noFiles : Bool := false
  deriving DecidableEq, Repr, Inhabited

namespace Candidates

/-- A line for each word and one for the number. -/
def text (c : Candidates) (described : Bool) : String :=
  let line (word : String × String) :=
    word.1 ++ (if described then "\t" ++ word.2 else "") ++ "\n"
  String.join (c.words.map line) ++ if c.noFiles then ":4\n" else ":0\n"

end Candidates

/-- Whether a name begins with what was typed. -/
def begins (typed name : String) : Bool := typed.toList.isPrefixOf name.toList

/-- Whether an argument is the beginning of a flag. -/
def isFlagStart (arg : String) : Bool :=
  arg.toList.head? = some '-' && !arg.toList.contains '='

/-! ## The flag in question -/

/-- A flag by its name, or by its letter if the name is that short. -/
def lookUp (flags : List Flag) (name : List Char) : Option Flag :=
  match name with
  | [c] => flags.find? (·.letter? == some c)
  | _ => flags.find? (·.name == String.ofList name)

/-- The name of the flag at the end of an argument that has no value in it.  Of letters that are run
together it is the last one. -/
def nameIn (arg : List Char) : List Char :=
  match arg with
  | '-' :: '-' :: name => name
  | _ => arg.getLast?.toList

/-- What the last argument of a command line is. -/
structure Question where
  /-- The flag whose value it is. -/
  flag : Option Flag := none
  /-- The arguments before it, without a flag that still lacks its value. -/
  args : List String
  /-- What was typed of it. -/
  typed : String
  /-- The flag does not exist. -/
  unknown : Bool := false
  deriving Repr, Inhabited

/-- Finds the flag whose value stands last: it is named in front of `=` or by the argument
before. -/
def question (flags : List Flag) (args : List String) (last : String) : Question :=
  let chars := last.toList
  let attached := chars.head? = some '-' && chars.contains '='
  let ownName := if attached then nameIn (chars.takeWhile (· != '=')) else []
  let typed := if attached then String.ofList ((chars.dropWhile (· != '=')).drop 1) else last
  let before := match args.getLast?.map String.toList with
    | some ('-' :: c :: rest) =>
      if (c :: rest).contains '=' || (c = '-' && rest.isEmpty) then [] else nameIn ('-' :: c :: rest)
    | _ => []
  if isFlagStart last then { args, typed := last }
  else
    let name := if ownName.isEmpty then before else ownName
    if name.isEmpty then { args, typed }
    else
      match lookUp flags name with
      | none => { args, typed := last, unknown := true }
      | some f =>
        if !attached && f.isSwitch then { args, typed }
        else { flag := f, args := if ownName.isEmpty then args.dropLast else args, typed }

/-! ## The answer -/

/-- The verbs that can follow a verb, or start a call. -/
def verbWords (owner : Option Verb) (typed : String) : List (String × String) :=
  ((Verb.below owner).filter (begins typed ·.name)).map fun verb => (verb.name, verb.summary)

/-- The flags of a verb that were not given yet, by names and letters.  Backends can be given again.
The flags of a call without a verb stand in one order; else the shared ones come first. -/
def flagWords (verb : Option Verb) (g : Given) (typed : String) : List (String × String) :=
  let owner := (verb.map Verb.name).getD "boardgen"
  let flags : List Flag := match verb with
    | none => [.backend, .config, .dev, .help, .logLevel, .templates]
    | some _ => flagsOf verb
  let words (f : Flag) :=
    let names := ("--" ++ f.name) :: f.letter?.toList.map fun c => "-" ++ String.singleton c
    (names.filter (begins typed)).map fun name => (name, f.description owner)
  (flags.filter fun f => f = .backend || (g.all f).isEmpty).flatMap words

/-- How a command line can go on whose last argument is `last`. -/
def candidates (args : List String) (last : String) : Candidates :=
  match split args with
  | .error _ => {}
  | .ok (some (.complete described), _) =>
    if isFlagStart last then
      { words := flagWords (some (.complete described)) {} last, noFiles := true }
    else {}
  | .ok (verb, args) =>
    let flags := flagsOf verb
    let q := question flags args last
    match parse flags q.args, parse flags (q.args ++ ["--"]) with
    | .ok g, .ok again =>
      -- A second `--` is an argument.
      let closed : Bool := g.args.length < again.args.length
      if q.unknown && !closed then {}
      else if !(g.all .help).isEmpty then { noFiles := true }
      else if q.flag.isNone && isFlagStart q.typed && !closed then
        { words := flagWords verb g q.typed, noFiles := true }
      else
        let open_ := q.flag.isNone && g.args.isEmpty
        let words := if open_ then verbWords verb q.typed else []
        let noFiles := open_ && !(Verb.below verb).isEmpty
        if q.flag.isSome && !closed then {}
        else match verb with
          | some .help => match split g.args with
            | .ok (topic, _) => { words := words ++ verbWords topic q.typed, noFiles := true }
            | .error _ => { words, noFiles := true }
          | some .completion | some (.script _) => { words, noFiles := true }
          | _ => { words, noFiles }
    | _, _ => {}

end Boardwright.Command
