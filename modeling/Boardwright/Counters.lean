import Boardwright.Board
import Boardwright.Fault

/-!
# Identifier allocation

GPIO devices and CPU bindings are numbered per category, from zero.  Identifiers are bytes, so
they wrap after 255; the two stream categories end before that, at `Counters.streamLimit`.
Observers are told about every allocation made after they subscribed.
-/

namespace Boardwright

/-- What is numbered. -/
inductive Category where
  | portIn
  | portOut
  | gpi
  | gpo
  | streamMaster
  | streamSlave
  deriving DecidableEq, Repr, Inhabited

namespace Category

def all : List Category := [portIn, portOut, gpi, gpo, streamMaster, streamSlave]

def name : Category → String
  | portIn => "port-in"
  | portOut => "port-out"
  | gpi => "gpi"
  | gpo => "gpo"
  | streamMaster => "stream-master"
  | streamSlave => "stream-slave"

/-- The name of the category with a given number. -/
def nameOfIndex (index : Nat) : String := (all[index]?.map name).getD "unknown"

end Category

/-- One allocation. -/
structure Allocation where
  owner : String
  id : UInt8
  category : Category
  deriving DecidableEq, Repr

/-- An allocation as one observer hears of it. -/
structure Notice where
  observer : Nat
  allocation : Allocation
  deriving DecidableEq, Repr

/-- The decimal text of an identifier. -/
def idText (id : UInt8) : String := toString id.toNat

/-- The streams of one CPU binding. -/
structure Streams where
  master : Option UInt8 := none
  slave : Option UInt8 := none
  deriving DecidableEq, Repr, Inhabited

/-- The identifiers of one GPIO device. -/
structure GpioIds where
  input : Option UInt8 := none
  output : Option UInt8 := none
  deriving DecidableEq, Repr, Inhabited

structure Counters where
  portIn : Nat := 0
  portOut : Nat := 0
  gpi : Nat := 0
  gpo : Nat := 0
  streamMaster : Nat := 0
  streamSlave : Nat := 0
  /-- How many observers have subscribed. -/
  observers : Nat := 0
  /-- Everything observers were told, oldest first. -/
  notices : List Notice := []
  deriving DecidableEq, Repr, Inhabited

namespace Counters

/-- Streams available per category. -/
def streamLimit : Nat := 16

def hostWrite : String := "host-write"
def hostRead : String := "host-read"

/-- How many identifiers of a category were handed out. -/
def count (c : Counters) : Category → Nat
  | .portIn => c.portIn
  | .portOut => c.portOut
  | .gpi => c.gpi
  | .gpo => c.gpo
  | .streamMaster => c.streamMaster
  | .streamSlave => c.streamSlave

/-- One more identifier of a category. -/
def bump (c : Counters) : Category → Counters
  | .portIn => { c with portIn := c.portIn + 1 }
  | .portOut => { c with portOut := c.portOut + 1 }
  | .gpi => { c with gpi := c.gpi + 1 }
  | .gpo => { c with gpo := c.gpo + 1 }
  | .streamMaster => { c with streamMaster := c.streamMaster + 1 }
  | .streamSlave => { c with streamSlave := c.streamSlave + 1 }

def subscribe (c : Counters) : Counters := { c with observers := c.observers + 1 }

/-- Tells every observer, in the order of their subscriptions. -/
def notify (c : Counters) (allocation : Allocation) : Counters :=
  { c with notices := c.notices ++ (List.range c.observers).map (⟨·, allocation⟩) }

/-- The next identifier of a category. -/
def take (c : Counters) (category : Category) (owner : String) : UInt8 × Counters :=
  let id := UInt8.ofNat (c.count category)
  (id, (c.bump category).notify ⟨owner, id, category⟩)

/-- The next identifier of a stream category, unless all are used. -/
def takeStream (c : Counters) (category : Category) (owner : String) : Option UInt8 × Counters :=
  if c.count category < streamLimit then
    let (id, c) := c.take category owner
    (some id, c)
  else (none, c)

def exhausted (role owner : String) : Fault := Fault.streamsExhausted role streamLimit [owner]

/-- The host-write half of an allocation, if the direction asks for it. -/
def allocateMaster (c : Counters) (owner : String) (d : Direction) :
    Option UInt8 × List Fault × Counters :=
  if d.isMaster then
    match (c.take .portIn owner).2.takeStream .streamMaster owner with
    | (some id, c) => (some id, [], c)
    | (none, c) => (none, [exhausted hostWrite owner], c)
  else (none, [], c)

/-- The host-read half of an allocation, if the direction asks for it. -/
def allocateSlave (c : Counters) (owner : String) (d : Direction) :
    Option UInt8 × List Fault × Counters :=
  if d.isSlave then
    match (c.take .portOut owner).2.takeStream .streamSlave owner with
    | (some id, c) => (some id, [], c)
    | (none, c) => (none, [exhausted hostRead owner], c)
  else (none, [], c)

/-- Numbers the streams of a CPU binding to a port of the given direction.  An exhausted category
is reported and left out; the other one is still served. -/
def allocateStreams (c : Counters) (owner : String) (d : Direction) :
    Streams × List Fault × Counters :=
  let (master, masterFaults, c) := c.allocateMaster owner d
  let (slave, slaveFaults, c) := c.allocateSlave owner d
  ({ master, slave }, masterFaults ++ slaveFaults, c)

/-- Numbers a GPIO device; one that works both ways gets one identifier of each category. -/
def allocateGpio (c : Counters) (owner : String) (d : Direction) : GpioIds × Counters :=
  let (input, c) :=
    if d.isMaster then let (id, c) := c.take .gpi owner; (some id, c) else (none, c)
  let (output, c) :=
    if d.isSlave then let (id, c) := c.take .gpo owner; (some id, c) else (none, c)
  ({ input, output }, c)

end Counters

end Boardwright
