/-!
# Code fragments

A fragment is a list of lines in the target language together with the headers and the forward
declarations that these lines need.  What is needed is kept once, in the order of first use.
-/

namespace Boardwright.Source

/-- A header.  Bracketed headers belong to the system. -/
structure Include where
  path : String
  bracketed : Bool := false
  deriving DecidableEq, Repr, Inhabited

namespace Include

def quoted (path : String) : Include := { path }

def bracket (path : String) : Include := { path, bracketed := true }

def text (i : Include) : String :=
  if i.bracketed then "<" ++ i.path ++ ">" else "\"" ++ i.path ++ "\""

end Include

/-- Appends what is not yet there, element by element. -/
def merge {α : Type} [BEq α] (known : List α) : List α → List α
  | [] => known
  | a :: as => merge (if known.contains a then known else known ++ [a]) as

structure Code where
  lines : List String := []
  includes : List Include := []
  forwardDecls : List String := []
  deriving DecidableEq, Repr, Inhabited

namespace Code

def ofLines (lines : List String) : Code := { lines }

/-- The fragment with further headers. -/
def needs (c : Code) (includes : List Include) : Code :=
  { c with includes := merge c.includes includes }

/-- The fragment with further forward declarations. -/
def declares (c : Code) (decls : List String) : Code :=
  { c with forwardDecls := merge c.forwardDecls decls }

/-- One fragment behind the other. -/
def append (c d : Code) : Code where
  lines := c.lines ++ d.lines
  includes := merge c.includes d.includes
  forwardDecls := merge c.forwardDecls d.forwardDecls

instance : Append Code := ⟨append⟩

def isEmpty (c : Code) : Bool := c.lines.isEmpty

end Code

end Boardwright.Source
