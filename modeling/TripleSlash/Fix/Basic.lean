import TripleSlash.Comment.Markup
import TripleSlash.Comment.Placement

namespace TripleSlash

/-- What is wanted for a declaration. -/
inductive Fix
  /-- A whole comment. -/
  | document
  /-- The existing comment with the element for one parameter. -/
  | documentParameter (parameter : String) (existing : Comment)
  /-- The existing comment with the elements for all parameters. -/
  | documentParameters (existing : Comment)
  deriving Repr

structure Request where
  id : Option String := none
  indentation : String := ""
  fix : Fix
  declaration : Declaration
  deriving Repr

/-- The answer to a request: a comment and its text, or the reason why there is none. -/
structure Outcome where
  id : Option String := none
  declaration : String
  offered : Bool
  reason : Option String := none
  comment : Option Comment := none
  text : Option String := none
  deriving DecidableEq, Repr

namespace Request

/-- The comment that a request asks for. -/
def comment (s : Settings) (r : Request) (oracle : Oracle := s.oracle) : Except Problem Comment :=
  match r.fix with
  | .document => Comment.assemble s r.declaration oracle
  | .documentParameter parameter existing => existing.insertParameter r.declaration parameter
  | .documentParameters existing => existing.insertMissing r.declaration

def outcome (s : Settings) (r : Request) (oracle : Oracle := s.oracle) : Outcome :=
  match r.comment s oracle with
  | .ok c =>
    { id := r.id, declaration := r.declaration.name, offered := true, comment := some c
      text := some (c.render s.lineEnding.text r.indentation) }
  | .error p =>
    { id := r.id, declaration := r.declaration.name, offered := false, reason := some p.message }

end Request

end TripleSlash
