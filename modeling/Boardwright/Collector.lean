import Boardwright.Fault

/-!
# Collected faults

A run goes on after a recoverable fault and keeps it.  Combinations are taken apart, so the
collector holds single faults in the order in which they were reported.
-/

namespace Boardwright

structure Collector where
  /-- The backend in whose name faults are reported. -/
  backend : String := ""
  faults : List Fault := []
  deriving Repr, Inhabited

namespace Collector

/-- Keeps a fault as it is. -/
def add (c : Collector) (fault : Option Fault) : Collector :=
  { c with faults := c.faults ++ (fault.map Fault.parts).getD [] }

/-- The entries that reporting a fault at `pos` adds. -/
def entries (backend : String) (fault : Fault) (pos : Pos) : List Fault :=
  fault.parts.map (·.attributed backend pos)

/-- Keeps a fault in the name of the backend, placed at `pos` if it has no place of its own. -/
def report (c : Collector) (fault : Fault) (pos : Pos) : Collector :=
  { c with faults := c.faults ++ entries c.backend fault pos }

/-- The faults as one, if there are any. -/
def fault? (c : Collector) : Option Fault :=
  if c.faults.isEmpty then none else some (.run c.faults)

end Collector

end Boardwright
