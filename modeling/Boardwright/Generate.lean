import Boardwright.Backend

/-!
# Running all backends

The selected backends run side by side over one board.  Each has a slot for its outcome, so the
order in which they start and finish does not show.  Either all succeed or there is no result.
The work can be called off; a backend that has not started by then does not run at all.
-/

namespace Boardwright

namespace Generate

/-- What can happen while backends run. -/
inductive Moment where
  | start (index : Nat)
  | finish (index : Nat)
  | cancel
  deriving DecidableEq, Repr

/-- The state of affairs. -/
structure Session where
  cancelled : Bool := false
  /-- Some backend found the work called off. -/
  refused : Bool := false
  running : List Nat := []
  slots : List (Option (Except Fault Result))

/-- One thing happens. -/
def Session.step (backends : List Backend) (b : Board) (s : Session) : Moment → Session
  | .cancel => { s with cancelled := true }
  | .start i => if s.cancelled then { s with refused := true } else { s with running := i :: s.running }
  | .finish i =>
    if s.running.contains i then
      { s with slots := s.slots.set i ((backends[i]?).map (·.run b)) }
    else s

/-- The fault of an outcome, if it is one. -/
def fault? : Except Fault Result → Option Fault
  | .error f => some f
  | .ok _ => none

/-- The outcomes as one: all results, or all faults, in the order of the backends. -/
def combine (outcomes : List (Except Fault Result)) : Except Fault (List Result) :=
  match Fault.combine (outcomes.map fault?) with
  | some f => .error f
  | none => .ok (outcomes.filterMap Except.toOption)

/-- What comes out in the end. -/
def Session.outcome (s : Session) : Except Fault (List Result) :=
  if s.refused then .error .cancelled else combine (s.slots.filterMap id)

/-- Backends that run one after the other. -/
def inTurn (count : Nat) : List Moment :=
  (List.range count).flatMap fun i => [.start i, .finish i]

def noBackend : Fault :=
  .simple { phase := .config, kind := .configuration, detail := "no backend selected" }

/-- Runs the backends while the given things happen. -/
def during (moments : List Moment) (b : Board) (backends : List Backend) :
    Except Fault (List Result) :=
  if backends.isEmpty then .error noBackend
  else
    let session : Session := { slots := backends.map fun _ => none }
    (moments.foldl (Session.step backends b) session).outcome

end Generate

/-- The results of all backends, in order. -/
def generate (b : Board) (backends : List Backend) : Except Fault (List Result) :=
  Generate.during (Generate.inTurn backends.length) b backends

end Boardwright
