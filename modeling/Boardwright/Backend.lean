import Boardwright.Result
import Boardwright.Walk.Visitor

/-!
# Backends

A backend is a visitor with a name and a way to read a result off its final state.
-/

namespace Boardwright

structure Backend where
  name : String
  State : Type
  visitor : Visitor State
  result : State → Result

namespace Backend

/-- Walks a board from a fresh state. -/
def walk (be : Backend) (b : Board) : Progress be.State := be.visitor.walk be.name b

/-- The result for a board.  A walk that was stopped fails with the reason; one that collected
faults fails with all of them. -/
def run (be : Backend) (b : Board) : Except Fault Result :=
  let p := be.walk b
  match p.abort with
  | some f => .error f
  | none => if p.collected.isEmpty then .ok (be.result p.state) else .error (.run p.collected)

end Backend

end Boardwright
