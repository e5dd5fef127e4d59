import TripleSlash.TypeRef.Basic

namespace TripleSlash

/-- What a return type stands for. -/
inductive Returned
  | nothing
  | awaitable (withResult : Bool)
  | value
  deriving DecidableEq, Repr

/-- What a host can tell of return types; nothing of one that it does not resolve. -/
abbrev Oracle := TypeRef → Option Returned

/-- What a return type stands for by its name alone; text that is no reference stands for nothing
known. -/
def TypeRef.returned? (awaitables : List String) (t : TypeRef) : Option Returned :=
  match t with
  | .raw _ => none
  | t =>
    if t.isVoid then some .nothing
    else if t.simpleName?.any awaitables.contains then some (.awaitable t.isGeneric)
    else some .value

end TripleSlash
