import TripleSlash.Comment.Basic
import TripleSlash.Datum.Plain

namespace TripleSlash

namespace Inline

def toDatum : Inline → Datum
  | .text t => .ofFields [("text", .text t)]
  | .see cref => .ofFields [("see", .text cref)]

/-- Reads a text or, where there is none, a reference. -/
def ofSettled? (d : Datum) : Option Inline :=
  let value (name : String) := ((d.recordFields? [name]).bind (·.lookup name)).bind Datum.text?
  (value "text").map .text <|> (value "see").map .see

def contentToDatum (content : List Inline) : Datum := .list (content.map toDatum)

def contentOfSettled? (d : Datum) : Option (List Inline) := d.items?.bind (·.mapM ofSettled?)

end Inline

namespace Node

def nameToDatum (name : Option String) : Datum := (name.map .text).getD .null

/-- The fields of an element next to its kind. -/
def fieldData : Node → Datum.Fields
  | .newLine => []
  | .summary content | .returns content => [("content", Inline.contentToDatum content)]
  | .typeParam name content | .param name content =>
    [("name", nameToDatum name), ("content", Inline.contentToDatum content)]
  | .exception cref content => [("cref", .text cref), ("content", Inline.contentToDatum content)]
  | .other raw => [("raw", .text raw)]

def toDatum (n : Node) : Datum := .ofFields (("kind", .text n.kind.tag) :: n.fieldData)

def fieldNames : Kind → List String
  | .newLine => []
  | .summary | .returns => ["content"]
  | .typeParam | .param => ["name", "content"]
  | .exception => ["cref", "content"]
  | .other => ["raw"]

def kinds : Datum.Kinds := Kind.all.map fun k => (k.tag, fieldNames k)

def kind? (tag : String) : Option Kind := Kind.all.find? (·.tag == tag)

/-- Builds an element of a kind from its fields. -/
def ofFields? (fs : Datum.Fields) : Kind → Option Node
  | .newLine => some .newLine
  | .summary => content?.map .summary
  | .typeParam => do return .typeParam (← name?) (← content?)
  | .param => do return .param (← name?) (← content?)
  | .returns => content?.map .returns
  | .exception => do
    return .exception (← (fs.lookup "cref").bind Datum.text?)
      (← Datum.orDefault? [] Inline.contentOfSettled? (fs.lookup "content"))
  | .other => ((fs.lookup "raw").bind Datum.text?).map .other
where
  content? : Option (List Inline) := (fs.lookup "content").bind Inline.contentOfSettled?
  name? : Option (Option String) := Datum.optional? Datum.text? (fs.lookup "name")

/-- Reads an element from data whose scalars are settled. -/
def ofSettled? (d : Datum) : Option Node := do
  let (tag, fs) ← d.variant? "kind" kinds
  (kind? tag).bind (ofFields? fs)

def ofDatum? (d : Datum) : Option Node := (d.settleTagged? "kind").bind ofSettled?

end Node

namespace Comment

def toDatum (c : Comment) : Datum := .list (c.map Node.toDatum)

def ofSettled? (d : Datum) : Option Comment := d.items?.bind (·.mapM Node.ofSettled?)

def ofDatum? (d : Datum) : Option Comment := d.items?.bind (·.mapM Node.ofDatum?)

end Comment

end TripleSlash
