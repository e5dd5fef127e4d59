import TripleSlash.Comment.Placement

namespace TripleSlash

/-- A change to the comment of a declaration. -/
inductive Edit
  | push (node : Node)
  | insert (index : Nat) (nodes : List Node)
  | splice (anchor : Anchor) (node : Node)
  | document (parameter : String)
  | documentAll
  /-- Puts the whole comment for the declaration in the place of the one there is. -/
  | assemble
  | replace (comment : Comment)
  deriving DecidableEq, Repr

/-- The comment after a change. -/
def Edit.apply (s : Settings) (d : Declaration) (c : Comment) (e : Edit)
    (oracle : Oracle := s.oracle) : Except Problem Comment :=
  match e with
  | push n => .ok (c.push n)
  | insert i ns => .ok (c.insertAt i ns)
  | splice a n => .ok (c.splice a n)
  | document parameter => c.insertParameter d parameter
  | documentAll => c.insertMissing d
  | assemble => Comment.assemble s d oracle
  | replace c => .ok c

/-- The comment after a change, or the one before where the change fails. -/
def Edit.applyOrKeep (s : Settings) (d : Declaration) (c : Comment) (e : Edit)
    (oracle : Oracle := s.oracle) : Comment :=
  match e.apply s d c oracle with
  | .ok c => c
  | .error _ => c

end TripleSlash
