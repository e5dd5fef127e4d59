import TripleSlash.Datum.Plain
import TripleSlash.Declaration.Basic

namespace TripleSlash

namespace TypeRef

def toDatum (t : TypeRef) : Datum := .text t.text

def ofDatum? (d : Datum) : Option TypeRef := d.text?.map parse

end TypeRef

namespace Datum

/-- The datum of a value that may be missing. -/
def ofOption (write : α → Datum) : Option α → Datum
  | none => .null
  | some a => write a

end Datum

namespace Access

def toDatum (a : Access) : Datum := .text a.tag

def ofDatum? (d : Datum) : Option Access := d.oneOf? all tag

end Access

namespace Accessor

def toDatum (a : Accessor) : Datum :=
  .ofFields [("accessibility", .ofOption Access.toDatum a.access)]

def ofDatum? (d : Datum) : Option Accessor := do
  let fs ← d.fields? ["accessibility"]
  return { access := ← Datum.optional? Access.ofDatum? (fs.lookup "accessibility") }

end Accessor

namespace Accessors

def toDatum (a : Accessors) : Datum :=
  .ofFields [("get", .ofOption Accessor.toDatum a.getter),
    ("set", .ofOption Accessor.toDatum a.setter), ("expression_body", .bool a.expressionBody)]

def ofDatum? (d : Datum) : Option Accessors := do
  let fs ← d.fields? ["get", "set", "expression_body"]
  return {
    getter := ← Datum.optional? Accessor.ofDatum? (fs.lookup "get")
    setter := ← Datum.optional? Accessor.ofDatum? (fs.lookup "set")
    expressionBody := ← Datum.orDefault? false Datum.bool? (fs.lookup "expression_body") }

end Accessors

namespace Parameter

def toDatum (p : Parameter) : Datum :=
  .ofFields [("name", .text p.name), ("type", p.type.toDatum)]

def ofDatum? (d : Datum) : Option Parameter := do
  let fs ← d.fields? ["name", "type"]
  return {
    name := ← (fs.lookup "name").bind Datum.text?
    type := ← (fs.lookup "type").bind TypeRef.ofDatum? }

end Parameter

namespace Enclosing

def toDatum (e : Enclosing) : Datum :=
  .ofFields [("name", .text e.name), ("kind", .text e.kind.tag),
    ("type_parameters", .list (e.typeParameters.map .text))]

def ofDatum? (d : Datum) : Option Enclosing := do
  let fs ← d.fields? ["name", "kind", "type_parameters"]
  return {
    name := ← (fs.lookup "name").bind Datum.text?
    kind := ← Datum.orDefault? .classType (·.oneOf? EnclosingKind.all EnclosingKind.tag)
      (fs.lookup "kind")
    typeParameters := ← Datum.orDefault? [] Datum.texts? (fs.lookup "type_parameters") }

end Enclosing

end TripleSlash
