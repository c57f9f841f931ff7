import Boardwright.Firmware.Gpio
import Boardwright.Firmware.Medium
import Boardwright.Firmware.Streams
import Boardwright.Server.Schedule

/-!
# The embedded server

Sources, board support package and driver files of the server that runs on the board.
-/

namespace Boardwright

namespace Firmware

/-- The server before anything was added. -/
def start (o : Options) : State where
  constants := {
    name := "constants", dir := o.src
    doc := { lines := [
      "Defines several constants used by the server.",
      "This includes medium-specific configuration."] } }
  components := {
    name := "components", dir := Path.join [o.src, "components"]
    doc := { lines := ["Contains component-specific initialisation and processing procedures."] } }
  init := initProcedure
  write := writeProcedure
  read := readProcedure

def defineDefaults (b : Board) (s : State) : State :=
  let s :=
    if b.debug then
      (s.define "DEBUG" "1" "Indicates, if additional messages should be logged on the console."
        []).define "loopy_print(...)" "xil_printf(__VA_ARGS__)"
          "With the chosen debug level, debug output will be sent over the JTAG cable."
          [.bracket "stdio.h"]
    else
      (s.define "DEBUG" "0" "Indicates, if additional messages should be logged on the console."
        []).define "loopy_print(...)" ""
          "With disabled debugging, calls to the print method are simply removed." []
  (s.define "MAX_OUT_SW_QUEUE_SIZE" (toString b.maxSwQueue.toInt)
    "Maximal size of out-going software queues." []).define "PROTO_VERSION" Platform.protocolVersion
      "Denotes protocol version, that should be used for sending messages." []

def defineCounts (c : Counters) (s : State) : State :=
  (((s.define "IN_STREAM_COUNT" (toString (c.count .streamMaster))
      "Number of in-going stream interfaces." []).define
    "OUT_STREAM_COUNT" (toString (c.count .streamSlave))
      "Number of out-going stream interfaces." []).define
    "gpi_count" (toString (c.count .gpi)) "Number of gpi components" []).define
    "gpo_count" (toString (c.count .gpo)) "Number of gpo components" []

/-- The constants and procedures that are complete only at the end. -/
def complete (c : Counters) (s : State) : State :=
  let s := defineCounts c s
  let procedures := [s.init, resetProcedure, s.write.addLines writeTail, s.read.addLines readTail]
  { s with components := procedures.foldl Source.Module.addProcedure s.components }

def finish (o : Options) (c : Counters) (s : State) : Answer State :=
  let s := complete c s
  match Server.Schedule.module o.src s.scheduler (c.count .streamMaster) (c.count .streamSlave) with
  | .error f => { state := s, stop := some f }
  | .ok scheduler =>
    { state := { s with produced := { s.produced with
        modules := s.produced.modules ++ [s.constants, s.components, scheduler]
        descriptors := s.produced.descriptors ++
          [{ name := "system.mss", dir := o.dir, descriptor := s.support }]
        deploy := s.deploy } } }

def visit (o : Options) (b : Board) (c : Counters) (call : Call) (s : State) : Answer State :=
  match call with
  | .start => { state := defineDefaults b s }
  | .medium m => addMedium o m s
  | .input g id => addInput o g id s
  | .output g id => addOutput o g id s
  | .bidirectional g _ _ => { state := s, stop := some (.bidirectionalGpio g.name) }
  | .defaultScheduler scheduler => { state := { s with scheduler := scheduler.code } }
  | .userScheduler scheduler _ => { state := { s with scheduler := scheduler.code } }
  | .core _ => { state := s }
  | .enter _ => { state := s }
  | .axis a => { state := addAxis a s }
  | .link _ => { state := s }
  | .leave _ => { state := s }
  | .finish => finish o c s

def visitor (o : Options) : Visitor State := { start := start o, visit := visit o }

end Firmware

/-- The backend for the embedded server. -/
def Backend.firmware (options : Firmware.Options) : Backend where
  name := Firmware.name
  State := Firmware.State
  visitor := Firmware.visitor options
  result := Firmware.State.produced

end Boardwright
