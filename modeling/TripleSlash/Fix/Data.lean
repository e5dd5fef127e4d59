import TripleSlash.Comment.Data
import TripleSlash.Declaration.Data
import TripleSlash.Fix.Basic

namespace TripleSlash

namespace Fix

/-- The fields that a fix adds to those of its request. -/
def fieldData : Fix → Datum.Fields
  | .document => [("fix", .text "document")]
  | .documentParameter parameter existing =>
    [("fix", .text "document_parameter"), ("parameter", .text parameter),
      ("existing", existing.toDatum)]
  | .documentParameters existing =>
    [("fix", .text "document_parameters"), ("existing", existing.toDatum)]

def kinds : Datum.Kinds :=
  [("document", []), ("document_parameter", ["parameter", "existing"]),
    ("document_parameters", ["existing"])]

/-- Reads a fix from the fields of a request that are not common to all requests. -/
def ofFields? (fs : Datum.Fields) : Option Fix := do
  let d ← (Datum.ofFields fs).settle
  let (kind, fs) ← d.variant? "fix" kinds
  let existing := (fs.lookup "existing").bind Comment.ofSettled?
  match kind with
  | "document" => return .document
  | "document_parameter" =>
    return .documentParameter (← (fs.lookup "parameter").bind Datum.text?) (← existing)
  | _ => return .documentParameters (← existing)

end Fix

namespace Request

def fieldNames : List String := ["id", "indentation", "declaration"]

def toDatum (r : Request) : Datum :=
  .ofFields ([("id", .ofOption .text r.id), ("indentation", .text r.indentation)] ++
    r.fix.fieldData ++ [("declaration", r.declaration.toDatum)])

/-- Reads a request. Its fields stand beside those of the fix, so it has to be a record, and all its
keys are names. -/
def ofDatum? : Datum → Option Request
  | .record fs => do
    let fs ← fs.mapM fun (k, v) => k.text?.map (·, v)
    guard (Datum.Fields.distinct fieldNames fs)
    return {
      id := ← Datum.optional? Datum.text? (fs.lookup "id")
      indentation := ← Datum.orDefault? "" Datum.text? (fs.lookup "indentation")
      fix := ← Fix.ofFields? (fs.filter (!fieldNames.contains ·.1))
      declaration := ← (fs.lookup "declaration").bind Declaration.ofDatum? }
  | _ => none

def listOfDatum? (d : Datum) : Option (List Request) := d.items?.bind (·.mapM ofDatum?)

end Request

namespace Outcome

def fieldNames : List String := ["id", "declaration", "offered", "reason", "comment", "text"]

/-- The field of a value that is left out when it is missing. -/
def presentField (name : String) (write : α → Datum) (value : Option α) : Datum.Fields :=
  value.toList.map fun a => (name, write a)

def toDatum (o : Outcome) : Datum :=
  .ofFields (presentField "id" .text o.id ++
    [("declaration", .text o.declaration), ("offered", .bool o.offered)] ++
    presentField "reason" .text o.reason ++ presentField "comment" Comment.toDatum o.comment ++
    presentField "text" .text o.text)

def ofDatum? (d : Datum) : Option Outcome := do
  let fs ← d.fields? fieldNames
  return {
    id := ← Datum.optional? Datum.text? (fs.lookup "id")
    declaration := ← (fs.lookup "declaration").bind Datum.text?
    offered := ← (fs.lookup "offered").bind Datum.bool?
    reason := ← Datum.optional? Datum.text? (fs.lookup "reason")
    comment := ← Datum.optional? Comment.ofDatum? (fs.lookup "comment")
    text := ← Datum.optional? Datum.text? (fs.lookup "text") }

def listToDatum (os : List Outcome) : Datum := .list (os.map toDatum)

def listOfDatum? (d : Datum) : Option (List Outcome) := d.items?.bind (·.mapM ofDatum?)

end Outcome

end TripleSlash
