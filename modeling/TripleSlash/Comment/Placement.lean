import TripleSlash.Comment.Assembly

namespace TripleSlash

/-- Where a new element goes: on a line of its own before or after the node at an index. -/
inductive Anchor
  | before (index : Nat)
  | after (index : Nat)
  deriving DecidableEq, Repr

namespace Comment

/-- The parameter elements that have a name, with their places. -/
def namedParams (c : Comment) : List (String × Nat) :=
  c.zipIdx.filterMap fun (n, i) => n.paramName?.map (·, i)

/-- Where the first element goes that documents a parameter: after the last type parameter, else
after the first summary, else after the first element. -/
def fallback? (c : Comment) : Option Nat :=
  (c.positions .typeParam).getLast? <|> (c.positions .summary).head? <|> c.findIdx? Node.isContent

/-- Where the element for the parameter at `target` goes: before the first documented parameter
that is declared later, else after the last documented parameter. -/
def anchor? (c : Comment) (declared : List String) (target : Nat) : Option Anchor :=
  match c.namedParams.find? fun (name, _) => (declared.idxOf? name).any (target < ·) with
  | some (_, i) => some (.before i)
  | none => ((c.namedParams.getLast?.map (·.2)) <|> c.fallback?).map .after

def splice (c : Comment) (a : Anchor) (n : Node) : Comment :=
  match a with
  | .before i => c.insertAt i [n, .newLine]
  | .after i => c.insertAt (i + 1) [.newLine, n]

/-- Documents the parameter with the given name. -/
def insertParameter (d : Declaration) (c : Comment) (name : String) : Except Problem Comment :=
  match d.findParameter? name with
  | none => .error (.unknownParameter name)
  | some (p, target) =>
    if c.documents name then .error (.alreadyDocumented name)
    else
      match c.anchor? (d.parameters.map (·.name)) target with
      | none => .error .nothingToInsertAfter
      | some a => .ok (c.splice a (.ofParameter p))

/-- Documents each parameter that is not documented yet, in the order of declaration. -/
def insertMissing (d : Declaration) (c : Comment) : Except Problem Comment :=
  d.parameters.foldlM
    (fun c p => if c.documents p.name then .ok c else c.insertParameter d p.name) c

end Comment

end TripleSlash
