import Boardwright.Firmware.State

/-!
# Streams of the server

The server reaches its streams by number.  The processor has no instruction that takes the number
from a register, so two procedures choose between one case per stream.
-/

namespace Boardwright.Firmware

open Source (Procedure)

def initProcedure : Procedure where
  returns := .void
  name := "init_components"
  doc := { lines := [
    "Initialises all components on this board.",
    "This includes gpio components and user-defined IPCores,",
    "but not the communication medium this board is attached with."] }
  body := { lines := ["int status;"] }

def resetProcedure : Procedure where
  returns := .void
  name := "reset_components"
  doc := { lines := [
    "Resets all components in this board.",
    "This includes gpio components and user-defined IPCores,",
    "but not the communication medium, this board is attached with."] }

/-- Writing to a stream, up to the first case. -/
def writeProcedure : Procedure where
  returns := .named "int"
  name := "axi_write"
  doc := {
    lines := ["Write a value to an AXI stream."]
    tags := [
      .param "val" "Value to be written to the stream.",
      .param "target" "Target stream identifier."] }
  params := [{ type := .named "int", name := "val" }, { type := .named "int", name := "target" }]
  modifiers := ["private"]
  body := {
    lines := [
      "// YES, this is ridiculous... THANKS FOR NOTHING, XILINX!",
      "if(DEBUG) xil_printf(\"\\nwriting to in-going port %d (value: %d) ...\", target, val);",
      "switch(target) \x7b"]
    includes := [fslHeader, constantsHeader] }

/-- Reading from a stream, up to the first case. -/
def readProcedure : Procedure where
  returns := .named "int"
  name := "axi_read"
  doc := {
    lines := ["Read a value from an AXI stream."]
    tags := [
      .param "val" "Pointer to the memory area, where the read value will be stored.",
      .param "target" "Target stream identifier."] }
  params := [{ type := .pointerTo "int", name := "val" }, { type := .named "int", name := "target" }]
  modifiers := ["private"]
  body := {
    lines := [
      "// YES, this is ridiculous... THANKS FOR NOTHING, XILINX!",
      "if(DEBUG) xil_printf(\"\\nreading from out-going port %d ...\", target);",
      "switch(target) \x7b"]
    includes := [fslHeader, constantsHeader] }

/-- The end of `writeProcedure`. -/
def writeTail : List String := [
  "default: xil_printf(\"ERROR: unknown axi stream port %d\", target);",
  "\x7d",
  "// should be call by value --> reuse the memory address...",
  "int rslt = 1;",
  "fsl_isinvalid(rslt);",
  "if(DEBUG) xil_printf(\" (invalid: %d)\", rslt);",
  "return rslt;"]

/-- The end of `readProcedure`. -/
def readTail : List String := [
  "default: xil_printf(\"ERROR: unknown axi stream port %d\", target);",
  "\x7d",
  "// should be call by value --> reuse the memory address...",
  "if(DEBUG) xil_printf(\"\\n %d\", *val);",
  "int rslt = 1;",
  "fsl_isinvalid(rslt);",
  "if(DEBUG) xil_printf(\" (invalid: %d)\", rslt);",
  "return rslt;"]

/-- The case of a host-write stream. -/
def writeCase (id : UInt8) : String :=
  let n := Text.padLeft 2 (idText id)
  "case " ++ n ++ ": putfslx(val, " ++ n ++ ", FSL_NONBLOCKING); break;"

/-- The case of a host-read stream. -/
def readCase (id : UInt8) : String :=
  let n := Text.padLeft 2 (idText id)
  "case " ++ n ++ ": getfslx(*val, " ++ n ++ ", FSL_NONBLOCKING); break;"

/-- The line that creates the queue of a host-write stream. -/
def queueLine (id : UInt8) (set : PortSettings) : String :=
  "inQueue[" ++ idText id ++ "] = createQueue(" ++ toString set.swQueueWords.toInt ++ ");"

/-- The lines that set up a host-read stream. -/
def outletLines (id : UInt8) (set : PortSettings) : List String := [
  "outQueueCap[" ++ idText id ++ "] = " ++ toString set.swQueueWords.toInt ++ ";",
  "isPolling[" ++ idText id ++ "] = " ++ (if set.polling then "1" else "0") ++ ";",
  "pollCount[" ++ idText id ++ "] = " ++ toString set.pollWords.toInt ++ ";"]

/-- Drivers for the queue and the width adapter of a stream, as far as it has them. -/
def streamDrivers (group : String) (set : PortSettings) : List Descriptor.Block :=
  (if 0 < set.hwQueue then [driver "generic" Platform.genericDriver (group ++ "_queue")] else []) ++
    if set.bitWidth != PortSettings.defaultBitWidth then
      [driver "generic" Platform.genericDriver (group ++ "_mux")]
    else []

def addMaster (id : UInt8) (set : PortSettings) (s : State) : State :=
  { s with
    write := s.write.addLines [writeCase id]
    init := s.init.addCode ((Source.Code.ofLines [queueLine id set]).needs [ioHeader]) }

def addSlave (id : UInt8) (set : PortSettings) (s : State) : State :=
  { s with
    read := s.read.addLines [readCase id]
    init := s.init.addCode ((Source.Code.ofLines (outletLines id set)).needs [ioHeader]) }

/-- Adds the streams of a CPU binding. -/
def addAxis (a : Axis) (s : State) : State :=
  let s := match a.streams.master with
    | some id => addMaster id a.settings s
    | none => s
  let s := match a.streams.slave with
    | some id => addSlave id a.settings s
    | none => s
  let drivers (letter : String) (id : Option UInt8) : List Descriptor.Block := match id with
    | some id => streamDrivers (letter ++ idText id) a.settings
    | none => []
  { s with support :=
      s.support.addBlocks (drivers "m" a.streams.master ++ drivers "s" a.streams.slave) }

end Boardwright.Firmware
