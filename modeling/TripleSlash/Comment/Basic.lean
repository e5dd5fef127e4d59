namespace TripleSlash

inductive Inline
  | text (text : String)
  /-- A reference to a member, `<see cref="…"/>`. -/
  | see (cref : String)
  deriving DecidableEq, Repr

/-- A line break or an element of a documentation comment. -/
inductive Node
  | newLine
  | summary (content : List Inline)
  | typeParam (name : Option String) (content : List Inline)
  | param (name : Option String) (content : List Inline)
  | returns (content : List Inline)
  | exception (cref : String) (content : List Inline)
  /-- Text of any other kind, kept as it is. -/
  | other (raw : String)
  deriving DecidableEq, Repr

namespace Node

inductive Kind
  | newLine
  | summary
  | typeParam
  | param
  | returns
  | exception
  | other
  deriving DecidableEq, Repr

def Kind.all : List Kind := [.newLine, .summary, .typeParam, .param, .returns, .exception, .other]

def Kind.tag : Kind → String
  | .newLine => "new_line"
  | .summary => "summary"
  | .typeParam => "type_param"
  | .param => "param"
  | .returns => "returns"
  | .exception => "exception"
  | .other => "other"

def kind : Node → Kind
  | newLine => .newLine
  | summary _ => .summary
  | typeParam _ _ => .typeParam
  | param _ _ => .param
  | returns _ => .returns
  | exception _ _ => .exception
  | other _ => .other

/-- The `name` attribute of a parameter or type parameter. -/
def name? : Node → Option String
  | typeParam name _ | param name _ => name
  | _ => none

def paramName? : Node → Option String
  | param name _ => name
  | _ => none

def isContent (n : Node) : Bool := n != newLine

end Node

/-- A documentation comment: its elements, with the line breaks between them. -/
abbrev Comment := List Node

namespace Comment

/-- Adds an element, on a line of its own. -/
def push (c : Comment) (n : Node) : Comment :=
  match c with
  | [] => [n]
  | _ => c ++ [.newLine, n]

/-- The comment that has each element on a line of its own. -/
def ofElements (elements : List Node) : Comment := elements.foldl push []

/-- Puts nodes in front of the one at the index, or at the end if the index is beyond it. -/
def insertAt (c : Comment) (index : Nat) (nodes : List Node) : Comment :=
  c.take index ++ nodes ++ c.drop index

def positions (c : Comment) (k : Node.Kind) : List Nat :=
  (c.zipIdx.filter (·.1.kind == k)).map (·.2)

/-- Whether some parameter element has the name. -/
def documents (c : Comment) (name : String) : Bool := c.any (·.paramName? == some name)

end Comment

end TripleSlash
