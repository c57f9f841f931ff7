import Boardwright.Source.Module
import Boardwright.Text.Split

/-!
# Module outlines

The outline of a module lists its structure line by line.  It is no target syntax; it is what the
inspector shows and what modules are compared by.
-/

namespace Boardwright.Source

namespace Outline

/-- A modifier with a blank behind it; no modifier is no text. -/
def modifier (m : String) : String := if m = "" then "" else m ++ " "

def parameters (ps : List Parameter) : String :=
  Text.join ", " (ps.map fun p =>
    p.type.text ++ (if p.reference then "&" else "") ++ " " ++ p.name)

def initial : Option Initial → String
  | none => ""
  | some (.expression text _) => " = " ++ text
  | some (.arguments args _) => " (" ++ Text.join ", " (args.getD []) ++ ")"

def member (indent : String) (a : Attribute) : String :=
  indent ++ "attr " ++ String.join (a.modifiers.map modifier) ++ a.type.text ++ " " ++ a.name ++
    initial a.init

def code (indent : String) (c : Code) : List String :=
  c.forwardDecls.map (indent ++ "extern " ++ ·) ++ c.lines.map (indent ++ "| " ++ ·)

def procedure (indent : String) (p : Procedure) : List String :=
  (indent ++ "proc " ++ String.join (p.modifiers.map modifier) ++ p.returns.text ++ " " ++ p.name ++
    "(" ++ parameters p.params ++ ")") :: code (indent ++ "  ") p.body

def record (r : Record) : List String :=
  ("  struct " ++ r.name) :: r.fields.map (member "    ")

def enumeration (e : Enumeration) : String :=
  "  enum " ++ e.name ++ " \x7b" ++ Text.join ", " e.values ++ "\x7d"

def bases : List Base → String
  | [] => ""
  | bs => " : " ++ Text.join ", " (bs.map fun b => modifier b.modifier ++ b.name)

def classLines (c : Class) : List String :=
  ("  class " ++ c.name ++ bases c.bases) :: c.attributes.map (member "    ") ++
    ("    ctor(" ++ parameters c.constructor.params ++ ")") ::
    c.constructor.inits.map (fun i => "      init " ++ i.name ++ "(" ++ Text.join ", " i.args ++ ")") ++
    code "      " c.constructor.body ++ "    dtor" :: code "      " c.destructor.body ++
    c.methods.flatMap (procedure "    ")

end Outline

namespace Module

/-- The lines of the outline. -/
def outlineLines (m : Module) : List String :=
  ("module " ++ m.name ++ " (" ++ m.dir ++ ")") ::
    m.includes.map (fun i => "  include " ++ i.text) ++
    m.definitions.map (fun d => "  def " ++ d.name ++ " = " ++ d.value) ++
    m.records.flatMap Outline.record ++ m.enumerations.map Outline.enumeration ++
    m.attributes.map (Outline.member "  ") ++ m.procedures.flatMap (Outline.procedure "  ") ++
    m.classes.flatMap Outline.classLines

/-- The outline as text; every line is ended. -/
def outline (m : Module) : String := String.join (m.outlineLines.map (· ++ "\n"))

end Module

end Boardwright.Source
