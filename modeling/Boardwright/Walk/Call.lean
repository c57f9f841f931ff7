import Boardwright.Board.Settings
import Boardwright.Counters

/-!
# Calls

While a board is walked, a backend is called for every node, with everything about the node
resolved: the core of an instance, the streams and settings of a CPU binding, both ends of a link.
-/

namespace Boardwright

/-- An instance with its core. -/
structure Site where
  inst : Instance
  core : Core
  /-- At least one binding reaches host software. -/
  host : Bool
  deriving DecidableEq, Repr, Inhabited

/-- A CPU binding with its port, streams and settings. -/
structure Axis where
  binding : CpuBinding
  port : Port
  inst : Instance
  streams : Streams
  settings : PortSettings
  deriving DecidableEq, Repr, Inhabited

/-- A link with both its ends. -/
structure Link where
  binding : LinkBinding
  port : Port
  inst : Instance
  peer : Instance
  peerPort : Port
  deriving DecidableEq, Repr, Inhabited

inductive Call where
  | start
  | medium (m : Medium)
  | input (g : Gpio) (id : UInt8)
  | output (g : Gpio) (id : UInt8)
  | bidirectional (g : Gpio) (inputId outputId : UInt8)
  | defaultScheduler (s : Scheduler)
  | userScheduler (s : Scheduler) (lines : List String)
  | core (c : Core)
  | enter (s : Site)
  | axis (a : Axis)
  | link (l : Link)
  | leave (s : Site)
  | finish
  deriving DecidableEq, Repr

end Boardwright
