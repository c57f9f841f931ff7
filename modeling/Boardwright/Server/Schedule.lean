import Boardwright.Board
import Boardwright.Fault
import Boardwright.Source.Module

/-!
# The scheduler module

The scheduling loop of the embedded server as source: either the default loop, with a part for each
direction that has streams, or lines that the board brings along.
-/

namespace Boardwright.Server

open Source (Include Procedure)

namespace Schedule

def includes : List Include :=
  [.quoted "constants.h", .quoted "queueUntyped.h", .quoted "io.h"]

def declarations : List String := [
  "void medium_read()",
  "int axi_write ( int val, int target )",
  "int axi_read ( int *val, int target )"]

def loopHead : List String := [
  "unsigned int pid;",
  "unsigned int i;",
  "",
  "while(1) \x7b",
  "    // receive a package from the interface (or all?)",
  "    // esp stores data packages in sw queue",
  "    medium_read();"]

/-- Queued words go to the hardware. -/
def writeLoop : List String := [
  "    ",
  "    // write data from sw queue to hw queue (if possible)",
  "    for(pid = 0; pid < IN_STREAM_COUNT; pid++) \x7b",
  "        for(i = 0; i < inQueue[pid]->cap; i++) \x7b",
  "            // go to next port if the sw queue is empty",
  "            if(inQueue[pid]->size == 0) break;",
  "            ",
  "            // try to write, skip if the hw queue is full",
  "            if(axi_write(peek(inQueue[pid]), pid)) \x7b",
  "                #if DEBUG",
  "                  loopy_print(\"\\nfailed to write to AXI stream\");",
  "                #endif /* DEBUG */",
  "                break;",
  "            \x7d",
  "            ",
  "            // remove the read value from the queue",
  "            take(inQueue[pid]);",
  "            ",
  "            // if the queue was full beforehand, poll",
  "            if(inQueue[pid]->size == inQueue[pid]->cap - 1) send_poll(pid);",
  "        \x7d",
  "    \x7d"]

/-- Words of the hardware go to the host. -/
def readLoop : List String := [
  "    ",
  "    // read data from hw queue (if available) and cache in sw queue",
  "    // flush sw queue, if it's full or the hw queue is empty",
  "    for(pid = 0; pid < OUT_STREAM_COUNT; pid++) \x7b",
  "        for(i = 0; i < outQueueCap[pid] && ((!isPolling[pid]) || pollCount[pid] > 0); i++) \x7b",
  "            // try to read, break if if fails",
  "            if(axi_read(&outQueue[outQueueSize], pid)) break;",
  "            ",
  "            // otherwise increment the queue size counter",
  "            outQueueSize++;",
  "            ",
  "            // decrement the poll counter (if the port was polling)",
  "            if(isPolling[pid]) pollCount[pid]--;",
  "        \x7d",
  "        // flush sw queue",
  "        flush_queue(pid);",
  "        outQueueSize = 0;",
  "    \x7d"]

/-- The default loop for the given numbers of host-write and host-read streams. -/
def defaultLoop (inlets outlets : Int) : Source.Code :=
  ((Source.Code.ofLines (loopHead ++ (if 0 < inlets then writeLoop else []) ++
    (if 0 < outlets then readLoop else []) ++ ["\x7d"])).needs includes).declares declarations

def defaultDoc : Source.Doc := { lines := [
  "Starts the scheduling loop.",
  "The scheduling loop performs the following actions in each iteration:",
  " - read and process messages from the medium",
  " - write values from Microblaze input queue to hardware input queue for each input stream",
  " - write values from hardware output queue to the medium (caches several values before sending)"] }

/-- The procedure that runs the loop. -/
def procedure (code : Code) (inlets outlets : Int) : Except Fault Procedure :=
  let start (doc : Source.Doc) (body : Source.Code) : Procedure :=
    ({ returns := .void, name := "schedule", doc } : Procedure).addCode body
  match code with
  | .default => .ok (start defaultDoc (defaultLoop inlets outlets))
  | .user lines =>
    .ok (start { lines := ["Starts the user-defined scheduling loop."] }
      (((Source.Code.ofLines lines).needs includes).declares declarations))
  | .missing => .error (.invariant .schedule "unknown scheduler code <nil>")

def moduleDoc : Code → Source.Doc
  | .user _ => { lines := ["User-defined scheduler."] }
  | _ => { lines := [
      "A primitive scheduler.",
      "Reads values from the medium, shifts values between Microblaze and VHDL components,",
      "and writes results back to the medium."] }

/-- The module with the loop. -/
def module (dir : String) (code : Code) (inlets outlets : Int) : Except Fault Source.Module := do
  let procedure ← procedure code inlets outlets
  return { name := "scheduler", dir, doc := moduleDoc code, procedures := [procedure] }

end Schedule

end Boardwright.Server
