import TripleSlash.Problem
import TripleSlash.Prose.Content
import TripleSlash.Prose.Sentence

namespace TripleSlash

namespace Node

def ofSummary (text : String) : Node := .summary [.text text]

def ofTypeParameter (name : String) : Node :=
  .typeParam (some name) [.text (Prose.typeParameterText name)]

def ofParameter (p : Parameter) : Node :=
  .param (some p.name) [.text (Prose.parameterText p.name p.type.isBoolean)]

def ofThrown (t : TypeRef) : Node := .exception t.cref []

end Node

namespace Declaration

def typeParameterElements (d : Declaration) : List Node :=
  d.typeParameters.map Node.ofTypeParameter

def parameterElements (d : Declaration) : List Node := d.parameters.map Node.ofParameter

def returnElements (s : Settings) (oracle : Oracle) (d : Declaration) : List Node :=
  (d.returnType.bind (Prose.returnContent? · s oracle)).toList.map Node.returns

def thrownElements (d : Declaration) : List Node := d.thrown.map Node.ofThrown

/-- The elements of the comment for a method, less the exceptions. -/
def signatureElements (s : Settings) (oracle : Oracle) (d : Declaration) : List Node :=
  Node.ofSummary (Prose.methodSummary d.name s.inflectVerbs) ::
    d.typeParameterElements ++ d.parameterElements ++ d.returnElements s oracle

/-- The elements of the comment for a constructor, or for a destructor. -/
def constructorElements (s : Settings) (d : Declaration) (destructor : Bool) :
    Except Problem (List Node) :=
  match d.enclosing with
  | none => .error (.noEnclosingType d.name)
  | some e =>
    .ok (.summary (Prose.constructorSummary e destructor s.phrases) :: d.parameterElements)

/-- The elements of the comment for a declaration, in their order. -/
def elements (s : Settings) (oracle : Oracle) (d : Declaration) : Except Problem (List Node) :=
  match d.kind with
  | .method =>
    if d.inheritsDocumentation then .error (.inheritsDocumentation d.name)
    else .ok (d.signatureElements s oracle ++ d.thrownElements)
  | .delegate => .ok (d.signatureElements s oracle)
  | .constructor => d.constructorElements s false
  | .destructor => d.constructorElements s true
  | .property =>
    if d.inheritsDocumentation then .error (.inheritsDocumentation d.name)
    else .ok [.ofSummary (Prose.propertySummary d.name (d.accessors.visible d.access)
      (d.valueType.any TypeRef.isBoolean))]
  | .indexer =>
    .ok (.ofSummary (Prose.indexerSummary (d.accessors.visible d.access) s.phrases) ::
      d.parameterElements ++ [.returns [.text s.phrases.indexerReturns]])
  | .event => .ok [.ofSummary (Prose.eventSummary d.name s.phrases)]
  | .classType | .structType =>
    .ok (.ofSummary (Prose.nounPhrase d.name false) :: d.typeParameterElements)
  | .interfaceType => .ok (.ofSummary (Prose.nounPhrase d.name true) :: d.typeParameterElements)
  | .enumType | .field => .ok [.ofSummary (Prose.nounPhrase d.name false)]
  | .enumMember => .ok [.ofSummary (Prose.enumMemberSummary d.name)]
  | .operator | .conversion | .namespaceBlock => .error (.unsupported d.kind)

end Declaration

/-- The whole comment for a declaration that has none. -/
def Comment.assemble (s : Settings) (d : Declaration) (oracle : Oracle := s.oracle) :
    Except Problem Comment :=
  (d.elements s oracle).map ofElements

end TripleSlash
