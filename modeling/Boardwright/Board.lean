import Boardwright.Position

/-!
# Boards

A board connects instances of hardware cores to each other and to host software.  It has a
transport medium, a scheduling policy for the embedded server, general-purpose IO devices, core
definitions and core instances with their bindings.
-/

namespace Boardwright

/-- Direction of a core port or a GPIO device, seen from the core or device. -/
inductive Direction where
  | input
  | output
  | dual
  /-- A code that stands for no direction. -/
  | other (code : UInt8) (unassigned : 2 < code := by decide)
  deriving DecidableEq, Repr, Inhabited

namespace Direction

def name : Direction → String
  | input => "in"
  | output => "out"
  | dual => "dual"
  | other .. => "unknown"

def code : Direction → UInt8
  | input => 0
  | output => 1
  | dual => 2
  | other code _ => code

def ofCode (code : UInt8) : Direction :=
  if h : 2 < code then other code h
  else if code = 0 then input else if code = 1 then output else dual

/-- A port of this direction that is bound to the CPU gets a host-write stream. -/
def isMaster (d : Direction) : Bool := d = input || d = dual

/-- A port of this direction that is bound to the CPU gets a host-read stream. -/
def isSlave (d : Direction) : Bool := d = output || d = dual

end Direction

/-- Behaviour of the server that a board may define itself. -/
inductive Code where
  | default
  | user (lines : List String)
  /-- No behaviour at all was given. -/
  | missing
  deriving DecidableEq, Repr, Inhabited

/-- Settings of an Ethernet medium. -/
inductive MediumOption where
  | mac (address : String)
  | ip (address : String)
  | mask (address : String)
  | gateway (address : String)
  | port (number : Int64)
  deriving DecidableEq, Repr

/-- Transport between host software and the board. -/
inductive Medium where
  | none
  | uart (pos : Pos)
  | ethernet (options : List MediumOption) (pos : Pos)
  | ethernetLite (options : List MediumOption) (pos : Pos)
  | pcie (pos : Pos)
  deriving DecidableEq, Repr, Inhabited

namespace Medium

def name : Medium → String
  | none => "none"
  | uart _ => "uart"
  | ethernet _ _ => "ethernet"
  | ethernetLite _ _ => "ethernet_lite"
  | pcie _ => "pcie"

/-- The settings of an Ethernet medium; other media have none. -/
def options : Medium → List MediumOption
  | ethernet options _ => options
  | ethernetLite options _ => options
  | _ => []

/-- Where the medium is declared. -/
def pos? : Medium → Option Pos
  | none => Option.none
  | uart pos => some pos
  | ethernet _ pos => some pos
  | ethernetLite _ pos => some pos
  | pcie pos => some pos

end Medium

/-- A setting of the whole board or of one CPU binding. -/
inductive Setting where
  | debug
  | hwQueue (size : Int64)
  | swQueue (size : Int64)
  | bitWidth (bits : Int64)
  /-- Polling mode with an initial credit. -/
  | poll (count : Int64)
  deriving DecidableEq, Repr

structure Scheduler where
  code : Code := .default
  pos : Pos := {}
  deriving DecidableEq, Repr, Inhabited

/-- A general-purpose IO device of the catalog. -/
structure Gpio where
  name : String
  direction : Direction
  callback : Code := .default
  pos : Pos := {}
  deriving DecidableEq, Repr, Inhabited

/-- An AXI-Stream port of a core. -/
structure Port where
  name : String
  direction : Direction
  pos : Pos := {}
  deriving DecidableEq, Repr, Inhabited

structure Core where
  name : String
  ports : List Port := []
  pos : Pos := {}
  deriving DecidableEq, Repr, Inhabited

/-- Exposes an instance port to host software. -/
structure CpuBinding where
  port : String
  options : List Setting := []
  pos : Pos := {}
  deriving DecidableEq, Repr, Inhabited

/-- Wires an instance port to a port of another instance. -/
structure LinkBinding where
  port : String
  peer : String
  peerPort : String
  pos : Pos := {}
  deriving DecidableEq, Repr, Inhabited

inductive Binding where
  | cpu (binding : CpuBinding)
  | link (binding : LinkBinding)
  deriving DecidableEq, Repr

namespace Binding

def port : Binding → String
  | cpu b => b.port
  | link b => b.port

def pos : Binding → Pos
  | cpu b => b.pos
  | link b => b.pos

def cpu? : Binding → Option CpuBinding
  | cpu b => some b
  | link _ => none

end Binding

/-- A named use of a core. -/
structure Instance where
  name : String
  core : String
  bindings : List Binding := []
  pos : Pos := {}
  deriving DecidableEq, Repr, Inhabited

structure Board where
  medium : Medium := .none
  scheduler : Scheduler := {}
  options : List Setting := []
  gpios : List Gpio := []
  cores : List Core := []
  instances : List Instance := []
  pos : Pos := {}
  deriving DecidableEq, Repr, Inhabited

/-- The first port of a core with the given name. -/
def Core.findPort? (c : Core) (name : String) : Option Port :=
  c.ports.find? (·.name == name)

/-- The bindings of an instance that reach host software, in order. -/
def Instance.cpuBindings (i : Instance) : List CpuBinding :=
  i.bindings.filterMap Binding.cpu?

/-- Whether host software sees the instance. -/
def Instance.hasCpuBinding (i : Instance) : Bool :=
  i.bindings.any (·.cpu?.isSome)

/-- The first core with the given name. -/
def Board.findCore? (b : Board) (name : String) : Option Core :=
  b.cores.find? (·.name == name)

/-- The first instance with the given name. -/
def Board.findInstance? (b : Board) (name : String) : Option Instance :=
  b.instances.find? (·.name == name)

/-- Every CPU binding of the board, instance by instance. -/
def Board.cpuBindings (b : Board) : List CpuBinding :=
  b.instances.flatMap Instance.cpuBindings

end Boardwright
