import Boardwright.Board

/-!
# Effective settings

Every CPU binding has a hardware queue, a software queue, a bit width and a polling mode.  What the
binding does not say comes from the board, and what the board does not say has a default.  Sizes
are signed 64-bit numbers and their products wrap.
-/

namespace Boardwright

/-- Settings of one CPU binding after all defaults. -/
structure PortSettings where
  hwQueue : Int64
  swQueue : Int64
  bitWidth : Int64
  pollCount : Int64 := 0
  polling : Bool := false
  deriving DecidableEq, Repr, Inhabited

namespace PortSettings

def defaultHwQueue : Int64 := 64
def defaultSwQueue : Int64 := 1024
def defaultBitWidth : Int64 := 32

/-- Number of 32-bit words that one value of the port occupies. -/
def words (s : PortSettings) : Int64 :=
  if s.bitWidth ≤ 32 then 1 else (s.bitWidth + 31) / 32

/-- Capacity of the software queue in words. -/
def swQueueWords (s : PortSettings) : Int64 := s.swQueue * s.words

/-- Initial polling credit in words. -/
def pollWords (s : PortSettings) : Int64 := s.pollCount * s.words

/-- A later setting overrides an earlier one.  Debugging concerns the whole board. -/
def override (s : PortSettings) : Setting → PortSettings
  | .hwQueue size => { s with hwQueue := size }
  | .swQueue size => { s with swQueue := size }
  | .bitWidth bits => { s with bitWidth := bits }
  | .poll count => { s with polling := true, pollCount := count }
  | .debug => s

end PortSettings

namespace Board

/-- Whether generated code prints diagnostics. -/
def debug (b : Board) : Bool := b.options.contains .debug

/-- Depth of the hardware queues, the first one given. -/
def hwQueue (b : Board) : Int64 :=
  (b.options.findSome? fun
    | .hwQueue size => some size
    | _ => none).getD PortSettings.defaultHwQueue

/-- Capacity of the software queues, the first one given. -/
def swQueue (b : Board) : Int64 :=
  (b.options.findSome? fun
    | .swQueue size => some size
    | _ => none).getD PortSettings.defaultSwQueue

/-- What holds for a binding without settings of its own. -/
def portDefaults (b : Board) : PortSettings :=
  { hwQueue := b.hwQueue, swQueue := b.swQueue, bitWidth := PortSettings.defaultBitWidth }

/-- The effective settings of a CPU binding. -/
def settings (b : Board) (binding : CpuBinding) : PortSettings :=
  binding.options.foldl PortSettings.override b.portDefaults

/-- The largest software queue in words, over the board default and every CPU binding. -/
def maxSwQueue (b : Board) : Int64 :=
  b.cpuBindings.foldl
    (fun largest binding =>
      let words := (b.settings binding).swQueueWords
      if largest < words then words else largest)
    b.swQueue

end Board

end Boardwright
