import TripleSlash.Comment.Basic
import TripleSlash.Declaration.Basic
import TripleSlash.Settings.Basic
import TripleSlash.TypeRef.Returned
import TripleSlash.TypeRef.Shape

namespace TripleSlash

/-- The oracle that goes by the names of types, for want of a host. -/
def Settings.oracle (s : Settings) : Oracle := TypeRef.returned? s.awaitables

/-- How a cross-reference names the type, its parameters in braces. -/
def Enclosing.cref (e : Enclosing) : String :=
  if e.typeParameters.isEmpty then e.name
  else e.name ++ "\x7b" ++ ",".intercalate e.typeParameters ++ "\x7d"

/-- How a cross-reference names the type: angle brackets become braces, and no space follows a
comma. -/
def TypeRef.cref (t : TypeRef) : String :=
  String.ofList
    (Text.replace ">" "\x7d" (Text.replace "<" "\x7b" (Text.replace ", " "," t.text.toList)))

namespace Prose

/-- The summary of a constructor or destructor, with a reference to the type that has it. -/
def constructorSummary (e : Enclosing) (destructor : Bool) (phrases : Phrases) : List Inline :=
  [.text (if destructor then phrases.destructorLead else phrases.constructorLead), .see e.cref,
    .text (" " ++ e.kind.tag ++ ".")]

def returnText (t : TypeRef) : String := t.shape.describe

/-- What is said of a returned value; nothing of a type that is void or unknown. -/
def returnContent? (t : TypeRef) (settings : Settings) (oracle : Oracle := settings.oracle) :
    Option (List Inline) :=
  match oracle t with
  | none | some .nothing => none
  | some (.awaitable withResult) =>
    let p := settings.phrases
    some [.text p.taskLead, .see (if withResult then p.genericTaskCref else p.taskCref),
      .text p.taskTrail]
  | some .value => some [.text (returnText t)]

end Prose

end TripleSlash
