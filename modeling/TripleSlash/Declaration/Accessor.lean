namespace TripleSlash

/-- Who may use a member, from the widest circle to the narrowest. -/
inductive Access
  | pub
  | protInternal
  | prot
  | internal
  | privProt
  | priv
  deriving DecidableEq, Repr

namespace Access

def all : List Access := [pub, protInternal, prot, internal, privProt, priv]

def tag : Access → String
  | pub => "public"
  | protInternal => "protected_internal"
  | prot => "protected"
  | internal => "internal"
  | privProt => "private_protected"
  | priv => "private"

/-- Whether callers or derived types outside the assembly see the member. -/
def isExternal : Access → Bool
  | pub | protInternal | prot => true
  | internal | privProt | priv => false

/-- Whether the modifier is written with the word `private`. -/
def saysPrivate : Access → Bool
  | privProt | priv => true
  | _ => false

end Access

/-- An accessor with its own modifier, if it has one. -/
structure Accessor where
  access : Option Access := none
  deriving DecidableEq, Repr

structure Accessors where
  getter : Option Accessor := none
  setter : Option Accessor := none
  expressionBody : Bool := false
  deriving DecidableEq, Repr

/-- Which accessors the documentation speaks of. -/
structure VisibleAccessors where
  getter : Bool
  setter : Bool
  deriving DecidableEq, Repr

/-- The accessors that show on a member of the given accessibility. -/
def Accessors.visible (a : Accessors) (member : Access) : VisibleAccessors :=
  match a.getter, a.setter with
  | some g, some s =>
    if g.access.isNone && s.access.isNone then ⟨true, true⟩
    else if g.access.any Access.saysPrivate then ⟨false, true⟩
    else if s.access.any Access.saysPrivate then ⟨true, false⟩
    else if !member.isExternal then ⟨true, true⟩
    else ⟨(g.access.getD member).isExternal, (s.access.getD member).isExternal⟩
  | g, s => if g.isSome || a.expressionBody then ⟨true, false⟩ else ⟨false, s.isSome⟩

end TripleSlash
