import TripleSlash.TypeRef.Basic

namespace TripleSlash

mutual

/-- A statement, as far as finding throws needs it. -/
inductive Statement
  | throws (expression : Option Expression)
  | block (statements : List Statement)
  | expression (expression : Expression)
  | other
  deriving Repr

inductive Expression
  | creation (type : TypeRef)
  | identifier (name : String)
  | lambda (body : List Statement)
  | other
  deriving Repr

end

/-- The type whose new object is thrown when this expression is. -/
def Expression.created : Expression → List TypeRef
  | .creation t => [t]
  | _ => []

mutual

/-- The types thrown as new objects, in the order of the text. -/
def Statement.thrown : Statement → List TypeRef
  | .throws (some e) => e.created ++ e.thrownInside
  | .block ss => bodyThrown ss
  | .expression e => e.thrownInside
  | .throws none | .other => []

def Expression.thrownInside : Expression → List TypeRef
  | .lambda ss => bodyThrown ss
  | _ => []

def bodyThrown : List Statement → List TypeRef
  | [] => []
  | s :: ss => s.thrown ++ bodyThrown ss

end

end TripleSlash
