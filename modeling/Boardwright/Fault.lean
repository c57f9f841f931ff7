import Boardwright.Position
import Boardwright.Text.Quoted
import Boardwright.Text.Split

/-!
# Faults

Everything that can go wrong is a `Fault`.  A *report* is a structured diagnostic: the phase that
failed, its kind, the backend and place it belongs to and, possibly, the fault that caused it.
Faults combine: several faults found together form one, and a run that collected faults fails with
all of them.

`Fault.text` is the wording, `Fault.first?` the report that represents a fault, and
`Fault.flatten` the list of single faults behind a combination.
-/

namespace Boardwright

/-- Where in the work a fault arose. -/
inductive Phase where
  | load
  | traverse
  | allocate
  | catalog
  | schedule
  | output
  | config
  | other (name : String)
  deriving DecidableEq, Repr, Inhabited

namespace Phase

def name : Phase → String
  | load => "load"
  | traverse => "traverse"
  | allocate => "allocate"
  | catalog => "catalog"
  | schedule => "schedule"
  | output => "output"
  | config => "config"
  | other name => name

/-- The phase with a given name. -/
def ofName (name : String) : Phase :=
  ([load, traverse, allocate, catalog, schedule, output, config].find? (·.name == name)).getD
    (other name)

end Phase

/-- What sort of fault it is.  An `invariant` fault is fatal. -/
inductive Kind where
  | configuration
  | structural
  | invariant
  | invalidInput
  | unsupported
  | io
  | other (name : String)
  deriving DecidableEq, Repr, Inhabited

namespace Kind

def name : Kind → String
  | configuration => "configuration"
  | structural => "structural"
  | invariant => "invariant"
  | invalidInput => "invalid_input"
  | unsupported => "unsupported"
  | io => "io"
  | other name => name

/-- The kind with a given name. -/
def ofName (name : String) : Kind :=
  ([configuration, structural, invariant, invalidInput, unsupported, io].find?
    (·.name == name)).getD (other name)

end Kind

/-- The head of a report: everything but its cause. -/
structure Diagnostic where
  phase : Phase
  kind : Kind
  backend : String := ""
  pos : Pos := {}
  /-- The board node concerned, from the outside in. -/
  path : List String := []
  detail : String := ""
  deriving DecidableEq, Repr, Inhabited

namespace Diagnostic

/-- Position, phase with backend, kind, path and detail, each only if there is one. -/
def text (d : Diagnostic) : String :=
  let place :=
    if d.pos.file = "" then ""
    else if 0 < d.pos.line then d.pos.file ++ ":" ++ toString d.pos.line ++ ": "
    else d.pos.file ++ ": "
  let owner := if d.backend = "" then "" else "/" ++ d.backend
  let path := if d.path.isEmpty then "" else " at " ++ Text.join "." d.path
  let detail := if d.detail = "" then "" else ": " ++ d.detail
  place ++ "[" ++ d.phase.name ++ owner ++ "] " ++ d.kind.name ++ path ++ detail

/-- The diagnostic in the name of a backend, placed at `pos` if it has no place of its own. -/
def attributed (d : Diagnostic) (backend : String) (pos : Pos) : Diagnostic :=
  if d.pos.file = "" && pos.file != "" then { d with backend, pos } else { d with backend }

end Diagnostic

inductive Fault where
  /-- A structured diagnostic with the fault behind it, if any. -/
  | report (head : Diagnostic) (cause : Option Fault)
  /-- A message from outside. -/
  | plain (text : String)
  /-- A fault with a remark in front. -/
  | wrapped (remark : String) (cause : Fault)
  /-- Faults found together. -/
  | several (parts : List Fault)
  /-- The faults that a whole run collected. -/
  | run (parts : List Fault)
  deriving Repr, Inhabited

namespace Fault

mutual

/-- The wording of a fault. -/
def text : Fault → String
  | report d none => d.text
  | report d (some cause) => d.text ++ " (caused by: " ++ text cause ++ ")"
  | plain t => t
  | wrapped remark cause => remark ++ ": " ++ text cause
  | several parts => Text.join "; " (texts parts)
  | run [f] => text f
  | run parts => toString parts.length ++ " errors:" ++ listing parts

def texts : List Fault → List String
  | [] => []
  | f :: fs => text f :: texts fs

/-- One line for each fault. -/
def listing : List Fault → String
  | [] => ""
  | f :: fs => "\n  - " ++ text f ++ listing fs

end

mutual

/-- The first report inside a fault, outermost first and from left to right. -/
def first? : Fault → Option (Diagnostic × Option Fault)
  | report d cause => some (d, cause)
  | plain _ => none
  | wrapped _ cause => first? cause
  | several parts => firstOf? parts
  | run parts => firstOf? parts

def firstOf? : List Fault → Option (Diagnostic × Option Fault)
  | [] => none
  | f :: fs => match first? f with
    | some found => some found
    | none => firstOf? fs

end

mutual

/-- Whether a report of the given phase and kind stands anywhere inside a fault. -/
def has (phase : Phase) (kind : Kind) : Fault → Bool
  | report d none => d.phase = phase && d.kind = kind
  | report d (some cause) => (d.phase = phase && d.kind = kind) || has phase kind cause
  | plain _ => false
  | wrapped _ cause => has phase kind cause
  | several parts => hasAny phase kind parts
  | run parts => hasAny phase kind parts

def hasAny (phase : Phase) (kind : Kind) : List Fault → Bool
  | [] => false
  | f :: fs => has phase kind f || hasAny phase kind fs

end

mutual

/-- The single faults behind a fault: combinations and runs are opened, everything else stays
whole. -/
def flatten : Fault → List Fault
  | several parts => flattenAll parts
  | run parts => flattenAll parts
  | report d cause => [report d cause]
  | plain t => [plain t]
  | wrapped remark cause => [wrapped remark cause]

def flattenAll : List Fault → List Fault
  | [] => []
  | f :: fs => flatten f ++ flattenAll fs

end

/-- The kind of the report that represents a fault. -/
def kind? (f : Fault) : Option Kind := f.first?.map (·.1.kind)

/-- Whether the representing report is an invariant violation, which aborts a run. -/
def isFatal (f : Fault) : Bool := f.kind? == some .invariant

/-- The fault directly behind this one, if there is exactly one. -/
def cause? : Fault → Option Fault
  | report _ cause => cause
  | wrapped _ cause => some cause
  | _ => none

/-- The start of a heading for a first character.  Only letters of ASCII have a capital; of any
other character each byte is replaced. -/
def capital (c : Char) : List Char :=
  if c.toNat < 0x80 then [c.toUpper] else List.replicate c.utf8Size '\ufffd'

/-- A heading for a fault: the words of its kind, each with a capital, and `Error`. -/
def tag (f : Fault) : String :=
  match f.kind? with
  | none => "Error"
  | some kind =>
    let words := (Text.split '_' kind.name).map fun word =>
      String.ofList (match word.toList with
        | [] => []
        | c :: cs => capital c ++ cs)
    Text.join " " words ++ " Error"

/-! ## Combination -/

/-- The faults that a combination is made of; any other fault is alone. -/
def parts : Fault → List Fault
  | several parts => parts
  | f => [f]

/-- The parts of all faults that are present, as one fault: nothing, the only part itself, or a
combination. -/
def combine (faults : List (Option Fault)) : Option Fault :=
  match faults.flatMap (fun f => (f.map parts).getD []) with
  | [] => none
  | [f] => some f
  | fs => some (several fs)

/-- Two faults as one. -/
def append (f g : Option Fault) : Option Fault := combine [f, g]

/-! ## The faults of the generator -/

/-- A report without a cause. -/
def simple (d : Diagnostic) : Fault := report d none

/-- No identifier of a stream category is left. -/
def streamsExhausted (role : String) (limit : Int) (path : List String := []) : Fault :=
  simple { phase := .allocate, kind := .configuration, path
           detail := "too many " ++ role ++ " stream interfaces (limit " ++ toString limit ++ ")" }

/-- A GPIO device that the catalog does not have. -/
def unknownDevice (name : String) : Fault :=
  simple { phase := .catalog, kind := .configuration, path := [name]
           detail := "unknown GPIO device " ++ Text.quote name }

/-- A GPIO device declared to work both ways. -/
def bidirectionalGpio (name : String) : Fault :=
  simple { phase := .traverse, kind := .configuration, path := [name]
           detail := "bi-directional GPIO components are not supported" }

/-- A binding to a port that the core does not have. -/
def missingPort (inst core port : String) : Fault :=
  simple { phase := .traverse, kind := .structural, path := [inst, port]
           detail := "core " ++ Text.quote core ++ " has no port " ++ Text.quote port }

/-- An instance of a core that the board does not declare. -/
def missingCore (inst core : String) : Fault :=
  simple { phase := .traverse, kind := .structural, path := [inst]
           detail := "instance of undeclared core " ++ Text.quote core }

/-- Work was called off. -/
def cancelled : Fault := plain "context canceled"

/-- A condition that a validated board never produces. -/
def invariant (phase : Phase) (detail : String) : Fault :=
  simple { phase, kind := .invariant, detail }

def unsupported (phase : Phase) (detail : String) : Fault :=
  simple { phase, kind := .unsupported, detail }

def invalidInput (phase : Phase) (path : List String) (detail : String) : Fault :=
  simple { phase, kind := .invalidInput, path, detail }

/-- The fault in the name of a backend, represented by its first report and placed at `pos` if
that has no place of its own.  A fault without a report stays as it is. -/
def attributed (f : Fault) (backend : String) (pos : Pos) : Fault :=
  match f.first? with
  | none => f
  | some (d, cause) => report (d.attributed backend pos) cause

end Fault

end Boardwright
