import Boardwright.Source.Code

/-!
# Source entities

Definitions, records, enumerations, variables, procedures and classes, independent of a target
syntax.  Types and modifiers are given by name; bodies and initial values are fragments of target
text.
-/

namespace Boardwright.Source

inductive TagKind where
  | param
  | see
  | author
  | since
  | result
  deriving DecidableEq, Repr, Inhabited

namespace TagKind

def all : List TagKind := [param, see, author, since, result]

def name : TagKind → String
  | param => "param"
  | see => "see"
  | author => "author"
  | since => "since"
  | result => "return"

/-- The number under which a kind is written. -/
def code : TagKind → Nat
  | param => 0
  | see => 1
  | author => 2
  | since => 3
  | result => 4

/-- The name of the kind with a given number. -/
def nameOfCode (code : Nat) : String := (all[code]?.map name).getD "unknown"

end TagKind

/-- A structured remark.  Only parameters have a name. -/
structure Tag where
  kind : TagKind
  name : String := ""
  text : String
  deriving DecidableEq, Repr, Inhabited

namespace Tag

def param (name text : String) : Tag := { kind := .param, name, text }
def see (text : String) : Tag := { kind := .see, text }
def author (text : String) : Tag := { kind := .author, text }
def since (text : String) : Tag := { kind := .since, text }
def result (text : String) : Tag := { kind := .result, text }

end Tag

/-- Documentation of an entity. -/
structure Doc where
  lines : List String := []
  tags : List Tag := []
  deriving DecidableEq, Repr, Inhabited

/-- A type by its name, or a pointer to it. -/
structure TypeRef where
  name : String
  pointer : Bool := false
  deriving DecidableEq, Repr, Inhabited

namespace TypeRef

def named (name : String) : TypeRef := { name }

def pointerTo (name : String) : TypeRef := { name, pointer := true }

def void : TypeRef := named "void"

def text (t : TypeRef) : String := if t.pointer then t.name ++ "*" else t.name

end TypeRef

structure Parameter where
  type : TypeRef
  name : String
  reference : Bool := false
  deriving DecidableEq, Repr, Inhabited

/-- A named constant or macro of the target. -/
structure Definition where
  doc : Doc := {}
  name : String
  value : String
  needs : List Include := []
  deriving DecidableEq, Repr, Inhabited

/-- An initial value: an expression, or the arguments of a constructor. -/
inductive Initial where
  | expression (text : String) (includes : List Include)
  /-- The list itself may be left open. -/
  | arguments (args : Option (List String)) (includes : List Include)
  deriving DecidableEq, Repr

namespace Initial

def includes : Initial → List Include
  | expression _ includes => includes
  | arguments _ includes => includes

/-- The initial value with another argument. -/
def addArgument (arg : String) : Initial → Initial
  | arguments args includes => arguments (some (args.getD [] ++ [arg])) includes
  | expression text includes => expression text includes

end Initial

/-- A variable, field or member. -/
structure Attribute where
  doc : Doc := {}
  type : TypeRef
  name : String
  modifiers : List String := []
  init : Option Initial := none
  deriving DecidableEq, Repr, Inhabited

structure Record where
  doc : Doc := {}
  name : String
  fields : List Attribute := []
  deriving DecidableEq, Repr, Inhabited

structure Enumeration where
  doc : Doc := {}
  name : String
  values : List String := []
  deriving DecidableEq, Repr, Inhabited

/-- A free function or a method. -/
structure Procedure where
  doc : Doc := {}
  returns : TypeRef
  name : String
  params : List Parameter := []
  modifiers : List String := []
  body : Code := {}
  deriving DecidableEq, Repr, Inhabited

namespace Procedure

def addParam (p : Procedure) (param : Parameter) : Procedure :=
  { p with params := p.params ++ [param] }

/-- The procedure with code at the end of its body. -/
def addCode (p : Procedure) (code : Code) : Procedure := { p with body := p.body ++ code }

def addLines (p : Procedure) (lines : List String) : Procedure := p.addCode (.ofLines lines)

end Procedure

/-- How a constructor initialises one member. -/
structure MemberInit where
  name : String
  args : List String := []
  deriving DecidableEq, Repr, Inhabited

structure Constructor where
  doc : Doc := {}
  params : List Parameter := []
  inits : List MemberInit := []
  body : Code := {}
  deriving DecidableEq, Repr, Inhabited

namespace Constructor

/-- The constructor with another parameter, documented by `text`. -/
def addParam (c : Constructor) (param : Parameter) (text : String) : Constructor :=
  { c with
    params := c.params ++ [param]
    doc := { c.doc with tags := c.doc.tags ++ [.param param.name text] } }

def addInit (c : Constructor) (name : String) (args : List String) : Constructor :=
  { c with inits := c.inits ++ [{ name, args }] }

def addCode (c : Constructor) (code : Code) : Constructor := { c with body := c.body ++ code }

end Constructor

structure Destructor where
  doc : Doc := {}
  body : Code := {}
  deriving DecidableEq, Repr, Inhabited

namespace Destructor

def addCode (d : Destructor) (code : Code) : Destructor := { d with body := d.body ++ code }

end Destructor

/-- A base class and how it is inherited from. -/
structure Base where
  name : String
  modifier : String := ""
  deriving DecidableEq, Repr, Inhabited

/-- A class.  It has one constructor and one destructor. -/
structure Class where
  doc : Doc := {}
  name : String
  bases : List Base := []
  attributes : List Attribute := []
  methods : List Procedure := []
  constructor : Constructor := {}
  destructor : Destructor := {}
  deriving DecidableEq, Repr, Inhabited

namespace Class

def addAttribute (c : Class) (a : Attribute) : Class :=
  { c with attributes := c.attributes ++ [a] }

def addMethod (c : Class) (p : Procedure) : Class := { c with methods := c.methods ++ [p] }

end Class

end Boardwright.Source
