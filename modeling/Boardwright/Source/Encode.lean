import Boardwright.Json
import Boardwright.Source.Module

/-!
# Modules as documents

Generated modules are stored as JSON.  Members come in a fixed order; lists, names and flags that
say nothing are left out.  Kinds are written as numbers.
-/

namespace Boardwright.Source

open Json (listMember textMember flagMember strings)

namespace Include

def toJson (i : Include) : Json :=
  .object [("path", .string i.path), ("kind", .number (if i.bracketed then 1 else 0))]

end Include

def includesMember (key : String) (includes : List Include) : List (String × Json) :=
  listMember key (includes.map Include.toJson)

namespace Code

def toJson (c : Code) : Json :=
  .object (listMember "lines" (strings c.lines) ++ includesMember "includes" c.includes ++
    listMember "forward_decls" (strings c.forwardDecls))

end Code

namespace Tag

def toJson (t : Tag) : Json :=
  .object (textMember "name" t.name ++ [("text", .string t.text), ("kind", .number t.kind.code)])

end Tag

namespace Doc

def toJson (d : Doc) : Json :=
  .object (listMember "lines" (strings d.lines) ++ listMember "tags" (d.tags.map Tag.toJson))

end Doc

namespace TypeRef

def toJson (t : TypeRef) : Json :=
  .object (("name", .string t.name) :: flagMember "pointer" t.pointer)

end TypeRef

namespace Parameter

def toJson (p : Parameter) : Json :=
  .object (("type", p.type.toJson) :: ("name", .string p.name) ::
    flagMember "reference" p.reference)

end Parameter

namespace Definition

def toJson (d : Definition) : Json :=
  .object (("doc", d.doc.toJson) :: ("name", .string d.name) :: ("value", .string d.value) ::
    includesMember "needs" d.needs)

end Definition

namespace Initial

def toJson : Initial → Json
  | expression text includes =>
    .object (("kind", .string "fragment") :: ("expr", .string text) ::
      includesMember "includes" includes)
  | arguments args includes =>
    .object (("kind", .string "init_list") ::
      ("args", match args with | none => .null | some args => .array (strings args)) ::
      includesMember "includes" includes)

end Initial

namespace Attribute

def toJson (a : Attribute) : Json :=
  .object ((match a.init with | none => [] | some i => [("init", i.toJson)]) ++
    ("doc", a.doc.toJson) :: ("type", a.type.toJson) :: ("name", .string a.name) ::
    listMember "modifiers" (strings a.modifiers))

end Attribute

namespace Record

def toJson (r : Record) : Json :=
  .object (("doc", r.doc.toJson) :: ("name", .string r.name) ::
    listMember "fields" (r.fields.map Attribute.toJson))

end Record

namespace Enumeration

def toJson (e : Enumeration) : Json :=
  .object (("doc", e.doc.toJson) :: ("name", .string e.name) ::
    listMember "values" (strings e.values))

end Enumeration

namespace Procedure

def toJson (p : Procedure) : Json :=
  .object ([("doc", p.doc.toJson), ("returns", p.returns.toJson), ("name", .string p.name)] ++
    listMember "params" (p.params.map Parameter.toJson) ++
    listMember "modifiers" (strings p.modifiers) ++ [("body", p.body.toJson)])

end Procedure

namespace MemberInit

def toJson (i : MemberInit) : Json :=
  .object (("name", .string i.name) :: listMember "args" (strings i.args))

end MemberInit

namespace Constructor

def toJson (c : Constructor) : Json :=
  .object (("doc", c.doc.toJson) :: listMember "params" (c.params.map Parameter.toJson) ++
    listMember "inits" (c.inits.map MemberInit.toJson) ++ [("body", c.body.toJson)])

end Constructor

namespace Destructor

def toJson (d : Destructor) : Json := .object [("doc", d.doc.toJson), ("body", d.body.toJson)]

end Destructor

namespace Base

def toJson (b : Base) : Json :=
  .object (("name", .string b.name) :: textMember "modifier" b.modifier)

end Base

namespace Class

def toJson (c : Class) : Json :=
  .object ([("doc", c.doc.toJson), ("name", .string c.name)] ++
    listMember "extends" (c.bases.map Base.toJson) ++
    listMember "attributes" (c.attributes.map Attribute.toJson) ++
    listMember "methods" (c.methods.map Procedure.toJson) ++
    [("constructor", c.constructor.toJson), ("destructor", c.destructor.toJson)])

end Class

namespace Module

def toJson (m : Module) : Json :=
  .object ([("doc", m.doc.toJson), ("name", .string m.name), ("dir", .string m.dir)] ++
    listMember "definitions" (m.definitions.map Definition.toJson) ++
    listMember "structs" (m.records.map Record.toJson) ++
    listMember "enums" (m.enumerations.map Enumeration.toJson) ++
    listMember "attributes" (m.attributes.map Attribute.toJson) ++
    listMember "procedures" (m.procedures.map Procedure.toJson) ++
    listMember "classes" (m.classes.map Class.toJson))

end Module

end Boardwright.Source
