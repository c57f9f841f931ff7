import Boardwright.Board
import Boardwright.Fault
import Boardwright.Text.Quoted
import Boardwright.Toml.Parser

/-!
# Reading boards

A board is read from a TOML table.  Reading goes on after a fault, so that every malformed entry is
reported; a board comes out only if there was none.  Keys that mean nothing are ignored.
-/

namespace Boardwright

/-- A value together with the faults found while reading it, in order. -/
structure Reading (α : Type) where
  value : α
  faults : List Fault := []

namespace Reading

instance : Monad Reading where
  pure a := { value := a }
  bind r f :=
    let s := f r.value
    { value := s.value, faults := r.faults ++ s.faults }

/-- Reports a fault and goes on with a substitute. -/
def fail {α : Type} (fault : Fault) (substitute : α) : Reading α :=
  { value := substitute, faults := [fault] }

/-- Reads every element of a list, in order. -/
def each {α β : Type} (f : α → Reading β) : List α → Reading (List β)
  | [] => pure []
  | a :: as => do
    let b ← f a
    let bs ← each f as
    pure (b :: bs)

end Reading

namespace Board.Decode

open Toml (Table Item)

/-- The place of an entry: its own line, or else that of the table. -/
def place (file : String) (t : Table) (key : String) : Pos :=
  { file, line := (t.line? key).getD t.line }

/-- A malformed entry. -/
def malformed (pos : Pos) (path : List String) (detail : String) : Fault :=
  .simple { phase := .load, kind := .invalidInput, pos, path, detail }

/-- A string.  Without the entry, or with an entry of another type, there is none. -/
def string (file : String) (t : Table) (key : String) : Reading (Option String) :=
  match t.get? key with
  | none => pure none
  | some (.string s) => pure (some s)
  | some _ => .fail (malformed (place file t key) [key] "expected a string") none

/-- A number that is not negative. -/
def natural (file : String) (t : Table) (key : String) : Reading (Option Int64) :=
  match t.get? key with
  | none => pure none
  | some (.integer n) =>
    if n < 0 then
      .fail (malformed (place file t key) [key] ("negative value " ++ toString n.toInt)) none
    else pure (some n)
  | some _ => .fail (malformed (place file t key) [key] "expected an integer") none

/-- A flag, unset without the entry. -/
def flag (file : String) (t : Table) (key : String) : Reading Bool :=
  match t.get? key with
  | none => pure false
  | some (.boolean b) => pure b
  | some _ => .fail (malformed (place file t key) [key] "expected a boolean") false

/-- The strings of an array of strings. -/
def stringItems? : List Item → Option (List String)
  | [] => some []
  | .string s :: items => (stringItems? items).map (s :: ·)
  | _ => none

/-- Lines of code. -/
def lines (file : String) (t : Table) (key : String) : Reading (Option (List String)) :=
  let refuse := Reading.fail
    (malformed (place file t key) [key] "expected an array of strings") none
  match t.get? key with
  | none => pure none
  | some (.array items) => match stringItems? items with
    | some lines => pure (some lines)
    | none => refuse
  | some _ => refuse

/-- The tables under a key; a single table counts as one of them. -/
def tables (file : String) (t : Table) (key : String) : Reading (List Table) :=
  match t.get? key with
  | none => pure []
  | some (.tables ts) => pure ts
  | some (.table t) => pure [t]
  | some _ => .fail (malformed (place file t key) [key] "expected an array of tables") []

/-- The direction of a node, which is named by `path` in faults. -/
def direction (file : String) (t : Table) (path : List String) : Reading Direction := do
  let word := (← string file t "direction").getD ""
  if word = "in" then pure .input
  else if word = "out" then pure .output
  else if word = "dual" then pure .dual
  else
    let detail := "invalid direction " ++ Text.quote word
    .fail (malformed (place file t "direction") path detail) .input

/-- Settings given by the keys of a table, in the order of the list. -/
def settings (file : String) (t : Table) (keys : List (String × (Int64 → Setting))) :
    Reading (List Setting) := do
  let found ← Reading.each (fun (key, make) => do
    let n ← natural file t key
    pure (n.map make)) keys
  pure (found.filterMap id)

def mediumOptions (file : String) (t : Table) : Reading (List MediumOption) := do
  let mac ← string file t "mac"
  let ip ← string file t "ip"
  let mask ← string file t "mask"
  let gateway ← string file t "gateway"
  let port ← natural file t "port"
  pure ([mac.map .mac, ip.map .ip, mask.map .mask, gateway.map .gateway, port.map .port].filterMap
    id)

def mediumOf (file : String) (t : Table) : Reading Medium := do
  let kind := (← string file t "kind").getD ""
  let pos := place file t "kind"
  let options ← mediumOptions file t
  if kind = "" || kind = "none" then pure .none
  else if kind = "uart" then pure (.uart pos)
  else if kind = "ethernet" then pure (.ethernet options pos)
  else if kind = "ethernet_lite" then pure (.ethernetLite options pos)
  else if kind = "pcie" then pure (.pcie pos)
  else .fail (malformed pos ["medium"] ("unknown medium " ++ Text.quote kind)) .none

/-- The medium, if there is exactly one table for it. -/
def medium (file : String) (ts : List Table) : Reading Medium :=
  match ts with
  | [t] => mediumOf file t
  | _ => pure .none

/-- Code from an entry, or the default behaviour. -/
def code (file : String) (t : Table) (key : String) : Reading Code := do
  match ← lines file t key with
  | some lines => pure (.user lines)
  | none => pure .default

/-- The scheduler, if there is exactly one table for it. -/
def scheduler (file : String) (ts : List Table) : Reading Scheduler :=
  match ts with
  | [t] => do
    let code ← code file t "code"
    pure { code, pos := place file t "code" }
  | _ => pure {}

def gpio (file : String) (t : Table) : Reading Gpio := do
  let name := (← string file t "name").getD ""
  let direction ← direction file t ["gpio", name]
  let callback ← code file t "callback"
  pure { name, direction, callback, pos := place file t "name" }

def port (file core : String) (t : Table) : Reading Port := do
  let name := (← string file t "name").getD ""
  let direction ← direction file t [core, name]
  pure { name, direction, pos := place file t "name" }

def core (file : String) (t : Table) : Reading Core := do
  let name := (← string file t "name").getD ""
  let ports ← Reading.each (port file name) (← tables file t "port")
  pure { name, ports, pos := place file t "name" }

/-- A binding, either to the CPU or to a peer. -/
def binding (file owner : String) (t : Table) : Reading (Option Binding) := do
  let port := (← string file t "port").getD ""
  let pos := place file t "port"
  let cpu ← flag file t "cpu"
  match cpu, ← string file t "peer" with
  | true, some _ =>
    .fail (malformed pos [owner, port] "binding is both a CPU connection and a core link") none
  | true, none =>
    let options ← settings file t [("hwqueue", .hwQueue), ("swqueue", .swQueue),
      ("bitwidth", .bitWidth), ("poll", .poll)]
    pure (some (.cpu { port, options, pos }))
  | false, some peer =>
    let peerPort := (← string file t "peer_port").getD ""
    pure (some (.link { port, peer, peerPort, pos }))
  | false, none =>
    .fail (malformed pos [owner, port] "binding needs either cpu = true or a peer") none

def inst (file : String) (t : Table) : Reading Instance := do
  let name := (← string file t "name").getD ""
  let core := (← string file t "core").getD ""
  let bindings ← Reading.each (binding file name) (← tables file t "bind")
  pure { name, core, bindings := bindings.filterMap id, pos := place file t "name" }

/-- The whole board. -/
def board (file : String) (t : Table) : Reading Board := do
  let debug ← flag file t "debug"
  let queues ← settings file t [("hwqueue", .hwQueue), ("swqueue", .swQueue)]
  let medium ← medium file (← tables file t "medium")
  let scheduler ← scheduler file (← tables file t "scheduler")
  let gpios ← Reading.each (gpio file) (← tables file t "gpio")
  let cores ← Reading.each (core file) (← tables file t "core")
  let instances ← Reading.each (inst file) (← tables file t "instance")
  pure { medium, scheduler, gpios, cores, instances
         options := (if debug then [.debug] else []) ++ queues
         pos := { file, line := 1 } }

end Board.Decode

namespace Board

/-- The board in a table, or all faults found in it. -/
def ofTable (file : String) (t : Toml.Table) : Except Fault Board :=
  let reading := Decode.board file t
  if reading.faults.isEmpty then .ok reading.value else .error (.run reading.faults)

/-- A text that is no TOML document.  `why` says what the reader took offence at. -/
def malformedText (file why : String) : Fault :=
  .report { phase := .load, kind := .invalidInput, pos := { file }, detail := "malformed TOML" }
    (some (.plain why))

/-- The board that a text describes.  The file's name is only used for positions. -/
def decode (file text : String) : Except Fault Board :=
  match Toml.parse? text with
  | none => .error (malformedText file "not a TOML document")
  | some t => ofTable file t

end Board

end Boardwright
