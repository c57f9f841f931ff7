import Boardwright.Hardware.State

/-!
# Streams and links in hardware

A stream leads from the processor to an instance or back, through a queue and an adapter of its
width if it needs them.  A link joins two instances by one net.  An interface of an instance is
attached once and then stays attached to its net.
-/

namespace Boardwright.Hardware

open Descriptor (Line Block)

def clocking : List Line := [
  .port "ACLK" (.ident Platform.clockNet),
  .port "ARESETN" (.ident Platform.resetNet)]

/-- Puts a block under a name, in place of the one that is there. -/
def putBlock (name : String) (b : Block) : List (String × Block) → List (String × Block)
  | [] => [(name, b)]
  | entry :: rest =>
    if entry.1 == name then (name, b) :: rest else entry :: putBlock name b rest

/-- The block of an instance before anything is attached. -/
def freshBlock (inst core : String) : Block := peripheral core inst Platform.userCore clocking

/-- The block of an instance, which need not have been entered yet. -/
def blockOf (inst core : String) (s : State) : Block :=
  (s.instances.lookup inst).getD (freshBlock inst core)

/-- Makes sure that an instance has a block. -/
def addInstance (inst core : String) (s : State) : State :=
  if (s.instances.lookup inst).isSome then s
  else { s with instances := putBlock inst (freshBlock inst core) s.instances }

/-- Attaches an interface of an instance to a net, unless it is attached already. -/
def attach (inst : Instance) (interface net : String) (s : State) : State :=
  let s := addInstance inst.name inst.core s
  let block := blockOf inst.name inst.core s
  if (block.lookup? .busInterface interface).isSome then s
  else
    let block := block.add [.bus interface (.ident net)]
    { s with instances := putBlock inst.name block s.instances }

def queueBlock (inst : String) (depth : Int64) (source target : String) : Block :=
  peripheral "queue" inst Platform.queueCore ([
    .parameter "C_DEPTH" (.number depth.toInt),
    .parameter "C_WIDTH" (.number PortSettings.defaultBitWidth.toInt),
    .bus "S_AXIS" (.ident source),
    .bus "M_AXIS" (.ident target)] ++ clocking)

def resizerBlock (inst : String) (inWidth outWidth : Int64) (source target : String) : Block :=
  peripheral "resizer" inst Platform.resizerCore ([
    .parameter "C_IN_WIDTH" (.number inWidth.toInt),
    .parameter "C_OUT_WIDTH" (.number outWidth.toInt),
    .bus "S_AXIS" (.ident source),
    .bus "M_AXIS" (.ident target)] ++ clocking)

def addQueue (o : Options) (inst : String) (depth : Int64) (source target : String) (s : State) :
    State :=
  let s := deployCore o "queue" Platform.queueCore s
  { s with system := s.system.addBlocks [queueBlock inst depth source target] }

def addResizer (o : Options) (inst : String) (inWidth outWidth : Int64) (source target : String)
    (s : State) : State :=
  let s := deployCore o "resizer" Platform.resizerCore s
  { s with system := s.system.addBlocks [resizerBlock inst inWidth outWidth source target] }

/-- The stages from the processor to the core.  Answers the net that the core receives from. -/
def writeChain (o : Options) (group : String) (set : PortSettings) (s : State) : String × State :=
  let (net, s) :=
    if 0 < set.hwQueue then
      (group ++ "_queue", addQueue o (group ++ "_queue") set.hwQueue group (group ++ "_queue") s)
    else (group, s)
  if set.bitWidth != PortSettings.defaultBitWidth then
    (group ++ "_mux", addResizer o (group ++ "_mux") PortSettings.defaultBitWidth set.bitWidth net
      (group ++ "_mux") s)
  else (net, s)

/-- The stages from the core to the processor.  Answers the net that the core sends on. -/
def readChain (o : Options) (group : String) (set : PortSettings) (s : State) : String × State :=
  let (net, s) :=
    if 0 < set.hwQueue then
      (group ++ "_queue", addQueue o (group ++ "_queue") set.hwQueue (group ++ "_queue") group s)
    else (group, s)
  if set.bitWidth != PortSettings.defaultBitWidth then
    (group ++ "_mux", addResizer o (group ++ "_mux") set.bitWidth PortSettings.defaultBitWidth
      (group ++ "_mux") net s)
  else (net, s)

/-- The interface of a port through which the core receives. -/
def receivingInterface (p : Port) : String :=
  if p.direction = .dual then p.name ++ "_in" else p.name

/-- The interface of a port on which the core sends. -/
def sendingInterface (p : Port) : String :=
  if p.direction = .dual then p.name ++ "_out" else p.name

/-- Connects the processor to a net. -/
def connect (interface net : String) (s : State) : State :=
  { s with processor := s.processor.add [.bus interface (.ident net)] }

def addMaster (o : Options) (a : Axis) (id : UInt8) (s : State) : State :=
  let group := "m" ++ idText id
  let (net, s) := writeChain o group a.settings (connect ("M" ++ idText id ++ "_AXIS") group s)
  attach a.inst (receivingInterface a.port) net s

def addSlave (o : Options) (a : Axis) (id : UInt8) (s : State) : State :=
  let group := "s" ++ idText id
  let (net, s) := readChain o group a.settings (connect ("S" ++ idText id ++ "_AXIS") group s)
  attach a.inst (sendingInterface a.port) net s

/-- Adds the streams of a CPU binding. -/
def addAxis (o : Options) (a : Axis) (s : State) : State :=
  let s := match a.streams.master with
    | some id => addMaster o a id s
    | none => s
  match a.streams.slave with
  | some id => addSlave o a id s
  | none => s

/-- Whether the declared end of a link is the one that receives. -/
def receives (l : Link) : Bool :=
  l.port.direction = .input || (l.port.direction = .dual && l.peerPort.direction = .output)

/-- Joins both ends of a link by a net that is named after the sending port. -/
def addLink (l : Link) (s : State) : State :=
  let (source, sourcePort, target, targetPort) :=
    if receives l then (l.peer, l.peerPort, l.inst, l.port)
    else (l.inst, l.port, l.peer, l.peerPort)
  let net := source.name ++ "_" ++ sourcePort.name
  attach target targetPort.name net (attach source sourcePort.name net s)

end Boardwright.Hardware
