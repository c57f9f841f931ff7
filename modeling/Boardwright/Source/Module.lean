import Boardwright.Source.Entity

/-!
# Source modules

A module is one generated compilation unit with the directory it belongs to.  Entities keep the
order in which they were added.
-/

namespace Boardwright.Source

structure Module where
  doc : Doc := {}
  name : String := ""
  dir : String := ""
  definitions : List Definition := []
  records : List Record := []
  enumerations : List Enumeration := []
  attributes : List Attribute := []
  procedures : List Procedure := []
  classes : List Class := []
  deriving DecidableEq, Repr, Inhabited

namespace Module

def addDefinition (m : Module) (d : Definition) : Module :=
  { m with definitions := m.definitions ++ [d] }

def addRecord (m : Module) (r : Record) : Module := { m with records := m.records ++ [r] }

def addEnumeration (m : Module) (e : Enumeration) : Module :=
  { m with enumerations := m.enumerations ++ [e] }

def addAttribute (m : Module) (a : Attribute) : Module :=
  { m with attributes := m.attributes ++ [a] }

def addProcedure (m : Module) (p : Procedure) : Module :=
  { m with procedures := m.procedures ++ [p] }

def addClass (m : Module) (c : Class) : Module := { m with classes := m.classes ++ [c] }

/-- Puts a procedure in the place of the first one with its name, or at the end. -/
def replaceProcedure (p : Procedure) : List Procedure → List Procedure
  | [] => [p]
  | q :: qs => if q.name == p.name then p :: qs else q :: replaceProcedure p qs

/-- The module with a procedure that replaces the first one of its name. -/
def withProcedure (m : Module) (p : Procedure) : Module :=
  { m with procedures := replaceProcedure p m.procedures }

def findDefinition? (m : Module) (name : String) : Option Definition :=
  m.definitions.find? (·.name == name)

def findAttribute? (m : Module) (name : String) : Option Attribute :=
  m.attributes.find? (·.name == name)

def findProcedure? (m : Module) (name : String) : Option Procedure :=
  m.procedures.find? (·.name == name)

def findClass? (m : Module) (name : String) : Option Class :=
  m.classes.find? (·.name == name)

/-- Adds the headers of initial values. -/
def mergeInits (out : List Include) (as : List Attribute) : List Include :=
  as.foldl (fun out a => merge out ((a.init.map Initial.includes).getD [])) out

/-- Adds the headers of procedure bodies. -/
def mergeBodies (out : List Include) (ps : List Procedure) : List Include :=
  ps.foldl (fun out p => merge out p.body.includes) out

/-- Adds the headers of a class: members, constructor, destructor and methods. -/
def mergeClass (out : List Include) (c : Class) : List Include :=
  let out := mergeInits out c.attributes
  let out := merge out c.constructor.body.includes
  let out := merge out c.destructor.body.includes
  mergeBodies out c.methods

/-- The headers that the module needs, each once, in the order of first use. -/
def includes (m : Module) : List Include :=
  let out := m.definitions.foldl (fun out d => merge out d.needs) []
  let out := mergeInits out m.attributes
  let out := m.records.foldl (fun out r => mergeInits out r.fields) out
  let out := mergeBodies out m.procedures
  m.classes.foldl mergeClass out

end Module

end Boardwright.Source
