import Boardwright.Backend
import Boardwright.Path
import Boardwright.Scope
import Boardwright.Text.Quoted

/-!
# The host API

Classes through which host software talks to the board.  Every instance with a CPU binding becomes
a class, with a member for each bound port, and one object of that class, which is constructed from
the numbers of its streams.  GPIO devices and the transport medium are objects, too.
-/

namespace Boardwright

namespace Host

open Source (Include Module Attribute Parameter TypeRef)

def name : String := "client"

structure Options where
  /-- The root of the generated tree. -/
  dir : String := "client"
  deriving DecidableEq, Repr, Inhabited

/-- Options in which an empty directory stands for the usual one. -/
def Options.ofDir (dir : String) : Options := if dir = "" then {} else { dir }

structure State where
  constants : Module
  components : Module
  /-- Classes of instances that were entered and not yet left. -/
  scopes : ScopeStack := []
  produced : Result := { backend := name }
  deriving Repr, Inhabited

def gpioHeader : Include := .quoted "gpio.h"
def interfaceHeader : Include := .quoted "interface.h"
def componentHeader : Include := .quoted "component.h"
def portHeader : Include := .quoted "port.h"

/-- The two modules before anything was added. -/
def start (options : Options) : State where
  constants := {
    name := "constants", dir := Path.join [options.dir, "src"]
    doc := { lines := ["Defines several constants used by the client."] } }
  components := {
    name := "components", dir := Path.join [Path.join [options.dir, "src"], "api"]
    doc := { lines := [
      "Describes user-defined IPCores and instantiates all cores present within this driver."] } }

namespace State

def define (s : State) (name value : String) (doc : List String) : State :=
  { s with constants := s.constants.addDefinition { doc := { lines := doc }, name, value } }

def addAttribute (s : State) (a : Attribute) : State :=
  { s with components := s.components.addAttribute a }

end State

/-! ## Constants and medium -/

def defineDefaults (b : Board) (s : State) : State :=
  ((s.define "DEBUG" (if b.debug then "1" else "0")
      ["If set, enables additional console output for debugging purposes"]).define
    "QUEUE_SIZE_HW" (toString b.hwQueue.toInt)
      ["Defines the default size of the boards hardware queues."]).define
    "QUEUE_SIZE_SW" (toString b.swQueue.toInt)
      ["Defines the default size of the boards software queues.",
       "This is equivalent with the maximal number of values, that should be send in one message"]

def defineCounts (c : Counters) (s : State) : State :=
  (((s.define "IN_PORT_COUNT" (toString (c.count .streamMaster))
      ["The number of in-going component ports"]).define
    "OUT_PORT_COUNT" (toString (c.count .streamSlave))
      ["The number of out-going component ports"]).define
    "GPI_COUNT" (toString (c.count .gpi)) ["The number of gpi components"]).define
    "GPO_COUNT" (toString (c.count .gpo)) ["The number of gpo components"]

def defaultIp : String := "192.168.1.10"
def defaultPort : Int64 := 8844

/-- The expression that opens an Ethernet connection.  The last address and port given count;
everything else concerns the board only. -/
def ethernet (options : List MediumOption) : String :=
  let (ip, port) := options.foldl (fun (ip, port) option => match option with
    | .ip address => (address, port)
    | .port number => (ip, number)
    | _ => (ip, port)) (defaultIp, defaultPort)
  "new ethernet(" ++ Text.quote ip ++ ", " ++ toString port.toInt ++ ")"

/-- The expression that opens the connection to the board, if host software can. -/
def connection? : Medium → Option String
  | .none => none
  | .uart _ => some "new uart()"
  | .ethernet options _ => some (ethernet options)
  | .ethernetLite options _ => some (ethernet options)
  | .pcie _ => none

/-- The object that holds the connection. -/
def mediumObject (text : String) : Attribute where
  doc := { lines := ["The communication medium this board is attached with."] }
  modifiers := ["private"]
  type := .pointerTo "interface"
  name := "intrfc"
  init := some (.expression text [interfaceHeader])

def addMedium (m : Medium) (s : State) : State :=
  match connection? m with
  | none => s
  | some text => s.addAttribute (mediumObject text)

/-! ## Devices and instances -/

/-- The object of a GPIO device. -/
def gpioObject (g : Gpio) (ids : List UInt8) : Attribute where
  doc := { lines := ["An instance of the #" ++ g.name ++ " core."] }
  modifiers := ["public"]
  type := .named ("class " ++ g.name)
  name := "gpio_" ++ g.name
  init := some (.arguments (some (ids.map idText)) [gpioHeader])

def addGpio (g : Gpio) (ids : List UInt8) (s : State) : State :=
  s.addAttribute (gpioObject g ids)

/-- The class of an instance before its ports are known. -/
def emptyClass (inst : String) : Source.Class where
  name := inst
  doc := {
    lines := ["An abstract representation of the #" ++ inst ++ " core."]
    tags := [.see "components.h for a list of core instances within this board driver."] }
  bases := [{ name := "component", modifier := "private" }]
  constructor := {
    doc := { lines := [
      "Constructor for the #" ++ inst ++ " core.",
      "Creates a new " ++ inst ++
        " instance on a board attached to the provided communication medium."] }
    body := { includes := [componentHeader] } }
  destructor := {
    doc := { lines := [
      "Destructor for the #" ++ inst ++ " core.",
      "Deletes registered ports and unregisters the core from the communication medium."] } }

/-- The class of a port object. -/
def portType : Direction → String
  | .input => "in"
  | .output => "out"
  | .dual => "dual"
  | .other .. => ""

def portDoc : Direction → String
  | .input => "An in-going AXI-Stream port."
  | .output => "An out-going AXI-Stream port."
  | .dual => "A bi-directional AXI-Stream port."
  | .other .. => ""

/-- The member that stands for a port. -/
def portMember (cls : String) (p : Port) : Attribute where
  doc := { lines := [portDoc p.direction, "Communicate with the #" ++ cls ++ " core through this port."] }
  modifiers := ["public"]
  type := .pointerTo (portType p.direction)
  name := p.name
  init := some (.expression "" [componentHeader, portHeader])

/-- Constructor parameters of a port, with their remarks. -/
def portParameters (p : Port) : List (Parameter × String) :=
  let id (name : String) : Parameter := { type := .named "unsigned char", name }
  if p.direction = .dual then
    [(id (p.name ++ "_in"), "Id of the in-going part of the port"),
     (id (p.name ++ "_out"), "Id of the out-going part of the port")]
  else [(id p.name, "Id of the port")]

/-- The expression that constructs a port object. -/
def portExpression (p : Port) : String :=
  if p.direction = .dual then "new dual(" ++ p.name ++ "_in, " ++ p.name ++ "_out)"
  else "new " ++ portType p.direction ++ "(" ++ p.name ++ ")"

/-- The arguments for a binding: its host-write stream, then its host-read stream. -/
def streamArguments (s : Streams) : List String :=
  s.master.toList.map idText ++ s.slave.toList.map idText

/-- Adds a bound port to the class under construction. -/
def addPort (p : Port) (streams : Streams) (scope : Scope) : Scope :=
  let cls := scope.cls.addAttribute (portMember scope.cls.name p)
  let constructor := (portParameters p).foldl (fun c (param, remark) => c.addParam param remark)
    cls.constructor
  let constructor := constructor.addInit p.name [portExpression p]
  let destructor := cls.destructor.addCode (.ofLines ["delete " ++ p.name ++ ";"])
  { cls := { cls with constructor, destructor }
    args := scope.args ++ streamArguments streams }

/-- The object of a finished class. -/
def objectOf (inst : String) (args : List String) : Attribute where
  doc := { lines := ["An instance of the #" ++ inst ++ " core."] }
  modifiers := ["public"]
  type := .named ("class " ++ inst)
  name := inst
  init := some (.arguments (if args.isEmpty then none else some args) [])

def enter (site : Site) (s : State) : Answer State :=
  if site.host then { state := { s with scopes := s.scopes.push (emptyClass site.inst.name) } }
  else { state := s }

def addAxis (a : Axis) (s : State) : Answer State :=
  match s.scopes.change (addPort a.port a.streams) with
  | .error f => { state := s, stop := some f }
  | .ok scopes => { state := { s with scopes } }

def leave (site : Site) (s : State) : Answer State :=
  if site.host then
    match s.scopes.pop with
    | .error f => { state := s, stop := some f }
    | .ok (scope, scopes) =>
      let components := s.components.addClass scope.cls
      { state := { s with
          scopes
          components := components.addAttribute (objectOf site.inst.name scope.args) } }
  else { state := s }

def finish (c : Counters) (s : State) : State :=
  let s := defineCounts c s
  { s with produced := { s.produced with
      modules := s.produced.modules ++ [s.constants, s.components] } }

def visit (b : Board) (c : Counters) (call : Call) (s : State) : Answer State :=
  match call with
  | .start => { state := defineDefaults b s }
  | .medium m => { state := addMedium m s }
  | .input g id => { state := addGpio g [id] s }
  | .output g id => { state := addGpio g [id] s }
  | .bidirectional g inputId outputId => { state := addGpio g [inputId, outputId] s }
  | .defaultScheduler _ => { state := s }
  | .userScheduler _ _ => { state := s }
  | .core _ => { state := s }
  | .enter site => enter site s
  | .axis a => addAxis a s
  | .link _ => { state := s }
  | .leave site => leave site s
  | .finish => { state := finish c s }

def visitor (options : Options) : Visitor State := { start := start options, visit }

end Host

/-- The backend for host software. -/
def Backend.host (options : Host.Options) : Backend where
  name := Host.name
  State := Host.State
  visitor := Host.visitor options
  result := Host.State.produced

end Boardwright
