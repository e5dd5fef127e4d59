import TripleSlash.Declaration.Basic

namespace TripleSlash

/-- Why no documentation can be offered. -/
inductive Problem
  | unsupported (kind : Declaration.Kind)
  | inheritsDocumentation (name : String)
  | noEnclosingType (name : String)
  | unknownParameter (name : String)
  | alreadyDocumented (name : String)
  | nothingToInsertAfter
  deriving DecidableEq, Repr

def Problem.message : Problem → String
  | unsupported kind => "no documentation is generated for " ++ kind.noun ++ " declarations"
  | inheritsDocumentation name => "\x60" ++ name ++ "\x60 inherits its documentation"
  | noEnclosingType name => "\x60" ++ name ++ "\x60 has no containing type to describe"
  | unknownParameter name => "parameter \x60" ++ name ++ "\x60 is not declared"
  | alreadyDocumented name => "parameter \x60" ++ name ++ "\x60 is already documented"
  | nothingToInsertAfter => "the documentation comment has no element to insert after"

end TripleSlash
