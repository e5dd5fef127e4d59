namespace TripleSlash

/-- A reference to a type, as a declaration spells it. -/
inductive TypeRef
  | keyword (text : String)
  | named (text : String)
  | dotted (segments : List TypeRef)
  | generic (container : String) (arguments : List TypeRef)
  | array (element : TypeRef)
  | nullable (element : TypeRef)
  /-- Text that is no type reference, kept as it is. -/
  | raw (text : String)
  deriving Repr, Inhabited

namespace TypeRef

/-- The words that name a predefined type. -/
def keywords : List String :=
  ["bool", "byte", "sbyte", "char", "decimal", "double", "float", "int", "uint", "nint",
    "nuint", "long", "ulong", "short", "ushort", "object", "string", "void"]

mutual

/-- The reference in its plain spelling. -/
def text : TypeRef → String
  | .keyword t | .named t | .raw t => t
  | .dotted ss => ".".intercalate (texts ss)
  | .generic c as => c ++ "<" ++ ", ".intercalate (texts as) ++ ">"
  | .array e => e.text ++ "[]"
  | .nullable e => e.text ++ "?"

def texts : List TypeRef → List String
  | [] => []
  | t :: ts => t.text :: texts ts

end

/-- Whether this is `bool`, nullable or not. -/
def isBoolean : TypeRef → Bool
  | .keyword t | .nullable (.keyword t) => t == "bool"
  | _ => false

def isVoid : TypeRef → Bool
  | .keyword t => t == "void"
  | _ => false

mutual

/-- The last name of the reference without its arguments. -/
def simpleName? : TypeRef → Option String
  | .named t => some t
  | .generic c _ => some c
  | .dotted ss => lastName? ss
  | _ => none

def lastName? : List TypeRef → Option String
  | [] => none
  | [s] => s.simpleName?
  | _ :: ss => lastName? ss

end

mutual

/-- Whether the last name carries arguments. -/
def isGeneric : TypeRef → Bool
  | .generic _ _ => true
  | .dotted ss => lastIsGeneric ss
  | _ => false

def lastIsGeneric : List TypeRef → Bool
  | [] => false
  | [s] => s.isGeneric
  | _ :: ss => lastIsGeneric ss

end

end TypeRef

end TripleSlash
