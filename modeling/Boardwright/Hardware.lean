import Boardwright.Hardware.Devices
import Boardwright.Hardware.Streams

/-!
# The hardware project

The descriptor of the system with all devices, streams and instances, the pin constraints and the
sources of the peripheral cores.
-/

namespace Boardwright

namespace Hardware

open Descriptor (Block)

/-- Lays down the base system. -/
def begin (s : State) : State :=
  { s with
    system := baseSystem
    processor := processor
    interrupts := [.ident timerInterrupt] }

/-- The blocks of the board's instances, in the order of declaration. -/
def instanceBlocks (b : Board) (s : State) : List Block :=
  b.instances.filterMap fun inst => s.instances.lookup inst.name

def finish (o : Options) (b : Board) (c : Counters) (s : State) : State :=
  let links := max (c.count .streamMaster) (c.count .streamSlave)
  let processor := s.processor.add [.parameter "C_FSL_LINKS" (.number links)]
  let system := s.system.addBlocks
    (processor :: interruptController s.interrupts :: instanceBlocks b s)
  { s with
    processor
    system
    produced := { s.produced with
      descriptors := s.produced.descriptors ++
        [{ name := "system.mhs", dir := o.dir, descriptor := system }]
      texts := s.produced.texts ++
        [{ name := "system.ucf", dir := Path.join [o.dir, "data"], lines := s.constraints }]
      deploy := s.deploy } }

def visit (o : Options) (b : Board) (c : Counters) (call : Call) (s : State) : Answer State :=
  match call with
  | .start => { state := begin s }
  | .medium m => addMedium m s
  | .input g _ => addGpio g true s
  | .output g _ => addGpio g false s
  | .bidirectional g _ _ => { state := s, reports := [(.bidirectionalGpio g.name, g.pos)] }
  | .defaultScheduler _ => { state := s }
  | .userScheduler _ _ => { state := s }
  | .core core => { state := deployCore o core.name Platform.userCore s }
  | .enter site => { state := addInstance site.inst.name site.core.name s }
  | .axis a => { state := addAxis o a s }
  | .link l => { state := addLink l s }
  | .leave _ => { state := s }
  | .finish => { state := finish o b c s }

def visitor (o : Options) : Visitor State := { start := {}, visit := visit o }

end Hardware

/-- The backend for the hardware project. -/
def Backend.hardware (options : Hardware.Options) : Backend where
  name := Hardware.name
  State := Hardware.State
  visitor := Hardware.visitor options
  result := Hardware.State.produced

end Boardwright
