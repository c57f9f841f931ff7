import Boardwright.Fault
import Boardwright.Source.Entity

/-!
# Classes under construction

A backend that builds a class over several calls keeps it in a scope.  Scopes nest; the innermost
one is current.
-/

namespace Boardwright

structure Scope where
  cls : Source.Class
  /-- Arguments for the object that will be built from the class. -/
  args : List String := []
  deriving DecidableEq, Repr, Inhabited

/-- Open scopes, the innermost first. -/
abbrev ScopeStack := List Scope

namespace ScopeStack

/-- There is no open scope. -/
def noScope : Fault := .invariant .traverse "no class under construction"

def push (s : ScopeStack) (cls : Source.Class) : ScopeStack := { cls } :: s

/-- The innermost scope. -/
def current (s : ScopeStack) : Except Fault Scope :=
  match s with
  | [] => .error noScope
  | scope :: _ => .ok scope

/-- Changes the innermost scope. -/
def change (s : ScopeStack) (f : Scope → Scope) : Except Fault ScopeStack :=
  match s with
  | [] => .error noScope
  | scope :: rest => .ok (f scope :: rest)

/-- Closes the innermost scope. -/
def pop (s : ScopeStack) : Except Fault (Scope × ScopeStack) :=
  match s with
  | [] => .error noScope
  | scope :: rest => .ok (scope, rest)

end ScopeStack

namespace Scope

/-- Initialises a member in the constructor. -/
def addInit (s : Scope) (name : String) (args : List String) : Scope :=
  { s with cls := { s.cls with constructor := s.cls.constructor.addInit name args } }

/-- Adds lines to the destructor. -/
def addCleanup (s : Scope) (lines : List String) : Scope :=
  { s with cls := { s.cls with destructor := s.cls.destructor.addCode (.ofLines lines) } }

end Scope

end Boardwright
