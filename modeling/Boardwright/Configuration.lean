import Boardwright.Firmware
import Boardwright.Hardware
import Boardwright.Host
import Boardwright.Text.Case

/-!
# Configuration

Which backends run, where they read templates and write their output, and how much is logged.
-/

namespace Boardwright

/-- How serious a message has to be to be logged. -/
inductive LogLevel where
  | debug
  | info
  | warn
  | error
  | dpanic
  | panic
  | fatal
  deriving DecidableEq, Repr, Inhabited

namespace LogLevel

def all : List LogLevel := [debug, info, warn, error, dpanic, panic, fatal]

def name : LogLevel → String
  | debug => "debug"
  | info => "info"
  | warn => "warn"
  | error => "error"
  | dpanic => "dpanic"
  | panic => "panic"
  | fatal => "fatal"

/-- The level that a text names, in any case of letters.  No text at all means `info`. -/
def ofText? (text : String) : Option LogLevel :=
  let word := Text.lower text
  if word = "" then some info
  else if word = "warning" then some warn
  else all.find? (·.name == word)

end LogLevel

structure Configuration where
  /-- The output root. -/
  root : String := "."
  /-- The directory of each backend below the output root. -/
  client : String := "client"
  server : String := "server"
  project : String := "project"
  /-- The root of the templates. -/
  templates : String := "templates"
  backends : List String := [Host.name, Firmware.name, Hardware.name]
  level : String := "info"
  development : Bool := false
  deriving DecidableEq, Repr, Inhabited

namespace Configuration

/-- A fault of the configuration as a whole, or of the setting under a key. -/
def fault (detail : String) (path : List String := []) (cause : Option Fault := none) : Fault :=
  .report { phase := .config, kind := .configuration, path, detail } cause

/-- The backends that can be selected. -/
def known : List String := [Host.name, Firmware.name, Hardware.name]

/-- At least one backend has to be selected, and only known ones. -/
def validate (c : Configuration) : Except Fault Unit :=
  if c.backends.isEmpty then .error (fault "no backend selected" ["backends"])
  else
    match c.backends.find? (!known.contains ·) with
    | some name =>
      let detail := "unknown backend " ++ Text.quote name ++ ", want one of " ++ Text.join ", " known
      .error (fault detail ["backends"])
    | none => .ok ()

/-- The log level, which has to be one that exists. -/
def logLevel (c : Configuration) : Except Fault LogLevel :=
  match LogLevel.ofText? c.level with
  | some level => .ok level
  | none =>
    let cause := Fault.plain ("unrecognized level: " ++ Text.quote c.level)
    .error (fault ("invalid log level " ++ Text.quote c.level) ["log.level"] (some cause))

/-- The backend of a given name, set up for this configuration. -/
def backend? (c : Configuration) (name : String) : Option Backend :=
  if name = Host.name then some (.host (.ofDir c.client))
  else if name = Firmware.name then
    some (.firmware (.ofDirs c.server (Path.join [c.templates, "server"])))
  else if name = Hardware.name then
    some (.hardware (.ofDirs c.project (Path.join [c.templates, "project"])))
  else none

/-- The selected backends, in the order in which they are listed. -/
def selected (c : Configuration) : List Backend := c.backends.filterMap c.backend?

end Configuration

end Boardwright
