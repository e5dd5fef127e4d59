import TripleSlash.Declaration.Accessor
import TripleSlash.Declaration.Body
import TripleSlash.TypeRef.Grammar

namespace TripleSlash

structure Parameter where
  name : String
  type : TypeRef
  deriving Repr

/-- The kind of type that has the constructor or destructor. -/
inductive EnclosingKind
  | classType
  | structType
  | recordType
  deriving DecidableEq, Repr

namespace EnclosingKind

def all : List EnclosingKind := [classType, structType, recordType]

def tag : EnclosingKind → String
  | classType => "class"
  | structType => "struct"
  | recordType => "record"

end EnclosingKind

structure Enclosing where
  name : String
  kind : EnclosingKind := .classType
  typeParameters : List String := []
  deriving DecidableEq, Repr

namespace Declaration

inductive Kind
  | method
  | delegate
  | constructor
  | destructor
  | property
  | indexer
  | event
  | classType
  | interfaceType
  | structType
  | enumType
  | enumMember
  | field
  | operator
  | conversion
  | namespaceBlock
  deriving DecidableEq, Repr

namespace Kind

def all : List Kind :=
  [method, delegate, constructor, destructor, property, indexer, event, classType, interfaceType,
    structType, enumType, enumMember, field, operator, conversion, namespaceBlock]

/-- The words for the kind in prose. -/
def noun : Kind → String
  | method => "method"
  | delegate => "delegate"
  | constructor => "constructor"
  | destructor => "destructor"
  | property => "property"
  | indexer => "indexer"
  | event => "event"
  | classType => "class"
  | interfaceType => "interface"
  | structType => "struct"
  | enumType => "enum"
  | enumMember => "enum member"
  | field => "field"
  | operator => "operator"
  | conversion => "conversion operator"
  | namespaceBlock => "namespace"

/-- The name of the kind in data files. -/
def tag : Kind → String
  | enumMember => "enum_member"
  | conversion => "conversion_operator"
  | k => k.noun

end Kind

end Declaration

/-- All that is known of one declaration. -/
structure Declaration where
  kind : Declaration.Kind
  name : String
  typeParameters : List String := []
  parameters : List Parameter := []
  returnType : Option TypeRef := none
  valueType : Option TypeRef := none
  access : Access := .pub
  accessors : Accessors := {}
  enclosing : Option Enclosing := none
  body : List Statement := []
  isOverride : Bool := false
  explicitInterface : Option String := none
  implementsMember : Bool := false
  deriving Repr

namespace Declaration

/-- Whether the documentation is that of an overridden or implemented member. -/
def inheritsDocumentation (d : Declaration) : Bool :=
  d.isOverride || d.explicitInterface.isSome || d.implementsMember

/-- The first parameter of the name, with its place. -/
def findParameter? (d : Declaration) (name : String) : Option (Parameter × Nat) :=
  d.parameters.zipIdx.find? (·.1.name == name)

def parameterIndex? (d : Declaration) (name : String) : Option Nat :=
  (d.findParameter? name).map (·.2)

/-- The exception types that the body throws as new objects, with repetitions. -/
def thrown (d : Declaration) : List TypeRef := bodyThrown d.body

end Declaration

end TripleSlash
