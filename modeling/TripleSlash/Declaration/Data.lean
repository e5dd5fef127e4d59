import TripleSlash.Declaration.BodyData

namespace TripleSlash.Declaration

def Kind.ofDatum? (d : Datum) : Option Kind := d.oneOf? Kind.all Kind.tag

def fieldNames : List String :=
  ["kind", "name", "type_parameters", "parameters", "return_type", "type", "accessibility",
    "accessors", "containing_type", "body", "is_override", "explicit_interface",
    "implements_interface_member"]

def toDatum (d : Declaration) : Datum :=
  .ofFields [("kind", .text d.kind.tag), ("name", .text d.name),
    ("type_parameters", .list (d.typeParameters.map .text)),
    ("parameters", .list (d.parameters.map Parameter.toDatum)),
    ("return_type", .ofOption TypeRef.toDatum d.returnType),
    ("type", .ofOption TypeRef.toDatum d.valueType), ("accessibility", d.access.toDatum),
    ("accessors", d.accessors.toDatum),
    ("containing_type", .ofOption Enclosing.toDatum d.enclosing),
    ("body", .list (bodyToData d.body)), ("is_override", .bool d.isOverride),
    ("explicit_interface", .ofOption .text d.explicitInterface),
    ("implements_interface_member", .bool d.implementsMember)]

/-- Reads a declaration; all but its kind and name may be missing. -/
def ofDatum? (d : Datum) : Option Declaration := do
  let fs ← d.fields? fieldNames
  return {
    kind := ← (fs.lookup "kind").bind Kind.ofDatum?
    name := ← (fs.lookup "name").bind Datum.text?
    typeParameters := ← Datum.orDefault? [] Datum.texts? (fs.lookup "type_parameters")
    parameters := ←
      Datum.orDefault? [] (·.items?.bind (·.mapM Parameter.ofDatum?)) (fs.lookup "parameters")
    returnType := ← Datum.optional? TypeRef.ofDatum? (fs.lookup "return_type")
    valueType := ← Datum.optional? TypeRef.ofDatum? (fs.lookup "type")
    access := ← Datum.orDefault? .pub Access.ofDatum? (fs.lookup "accessibility")
    accessors := ← Datum.orDefault? {} Accessors.ofDatum? (fs.lookup "accessors")
    enclosing := ← Datum.optional? Enclosing.ofDatum? (fs.lookup "containing_type")
    body := ← Datum.orDefault? [] bodyOfDatum? (fs.lookup "body")
    isOverride := ← Datum.orDefault? false Datum.bool? (fs.lookup "is_override")
    explicitInterface := ← Datum.optional? Datum.text? (fs.lookup "explicit_interface")
    implementsMember := ←
      Datum.orDefault? false Datum.bool? (fs.lookup "implements_interface_member") }

end TripleSlash.Declaration
