import Boardwright.Text.Split

/-!
# Hardware descriptors

A descriptor lists header lines and blocks.  Each line assigns values to names: parameters, ports
or bus interfaces.  A block is known by its `INSTANCE` parameter.
-/

namespace Boardwright

namespace Descriptor

inductive Kind where
  | parameter
  | port
  | busInterface
  /-- A code that stands for no kind of line. -/
  | other (code : UInt8) (unassigned : 3 ≤ code := by decide)
  deriving DecidableEq, Repr, Inhabited

namespace Kind

def name : Kind → String
  | parameter => "PARAMETER"
  | port => "PORT"
  | busInterface => "BUS_INTERFACE"
  | other .. => "UNKNOWN"

def ofCode (code : UInt8) : Kind :=
  if h : 3 ≤ code then other code h
  else if code = 0 then parameter
  else if code = 1 then port
  else busInterface

end Kind

/-- The right-hand side of an assignment. -/
inductive Value where
  | ident (name : String)
  | number (value : Int)
  /-- A range of bits. -/
  | range (high low : Int)
  /-- A memory address, as written. -/
  | address (text : String)
  /-- Several nets on one port. -/
  | concat (parts : List Value)
  deriving Repr, Inhabited

namespace Value

mutual

def text : Value → String
  | ident name => name
  | number n => toString n
  | range high low => "[" ++ toString high ++ ":" ++ toString low ++ "]"
  | address text => text
  | concat parts => Text.join " & " (texts parts)

def texts : List Value → List String
  | [] => []
  | v :: vs => text v :: texts vs

end

end Value

structure Assignment where
  name : String
  value : Value
  deriving Repr, Inhabited

/-- One line of a block or of the header. -/
structure Line where
  kind : Kind
  assignments : List Assignment := []
  deriving Repr, Inhabited

namespace Line

def parameter (name : String) (value : Value) : Line :=
  { kind := .parameter, assignments := [{ name, value }] }

def port (name : String) (value : Value) : Line :=
  { kind := .port, assignments := [{ name, value }] }

def bus (name : String) (value : Value) : Line :=
  { kind := .busInterface, assignments := [{ name, value }] }

/-- The line with one more assignment. -/
def also (l : Line) (name : String) (value : Value) : Line :=
  { l with assignments := l.assignments ++ [{ name, value }] }

def assignmentText (a : Assignment) : String := a.name ++ " = " ++ a.value.text

/-- The line as written, without indentation and line break. -/
def text (l : Line) : String :=
  match l.assignments with
  | [] => l.kind.name
  | as => l.kind.name ++ " " ++ Text.join ", " (as.map assignmentText)

end Line

structure Block where
  name : String
  lines : List Line := []
  deriving Repr, Inhabited

namespace Block

def add (b : Block) (lines : List Line) : Block := { b with lines := b.lines ++ lines }

/-- The value first assigned to a name in a line of a kind. -/
def lookup? (b : Block) (kind : Kind) (name : String) : Option Value :=
  b.lines.findSome? fun l =>
    if l.kind = kind then (l.assignments.find? (·.name == name)).map (·.value) else none

/-- The name of the hardware that the block describes, or nothing. -/
def instanceName (b : Block) : String :=
  ((b.lookup? .parameter "INSTANCE").map Value.text).getD ""

def text (b : Block) : String :=
  "\nBEGIN " ++ b.name ++ "\n" ++ String.join (b.lines.map fun l => " " ++ l.text ++ "\n") ++ "END\n"

end Block

end Descriptor

structure Descriptor where
  header : List Descriptor.Line := []
  blocks : List Descriptor.Block := []
  deriving Repr, Inhabited

namespace Descriptor

def addLine (d : Descriptor) (l : Line) : Descriptor := { d with header := d.header ++ [l] }

def addBlocks (d : Descriptor) (bs : List Block) : Descriptor :=
  { d with blocks := d.blocks ++ bs }

/-- The first block of an instance and its index. -/
def find? (d : Descriptor) (inst : String) : Option (Block × Nat) :=
  (d.blocks.zipIdx.find? fun entry => entry.1.instanceName == inst)

/-- The descriptor with the block at an index replaced. -/
def replace (d : Descriptor) (index : Nat) (b : Block) : Descriptor :=
  { d with blocks := d.blocks.set index b }

/-- The descriptor as written. -/
def text (d : Descriptor) : String :=
  String.join (d.header.map fun l => l.text ++ "\n") ++ String.join (d.blocks.map Block.text)

end Descriptor

end Boardwright
