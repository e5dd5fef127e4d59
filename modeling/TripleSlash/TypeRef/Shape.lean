import TripleSlash.Text.Replace
import TripleSlash.TypeRef.Basic

namespace TripleSlash

/-- What a type reference is, as far as its description goes. -/
inductive Shape
  | primitive (text : String)
  | simple (text : String)
  | qualified (text : String)
  | generic (container : String) (arguments : List Shape)
  | array (element : Shape)
  | unknown (text : String)
  deriving Repr, Inhabited

namespace Shape

mutual

def text : Shape → String
  | .primitive t | .simple t | .qualified t | .unknown t => t
  | .generic c as => c ++ "<" ++ ", ".intercalate (texts as) ++ ">"
  | .array e => e.text ++ "[]"

def texts : List Shape → List String
  | [] => []
  | s :: ss => s.text :: texts ss

end

/-- `An` before an ASCII vowel, `A` before anything else. -/
def article (noun : String) : String :=
  if noun.toList.head?.any fun c => ['a', 'e', 'i', 'o', 'u'].contains c.toLower then "An" else "A"

def withArticle (noun : String) : String := article noun ++ " " ++ noun ++ "."

/-- The name of an element, without the arguments it may have. -/
def bareName : Shape → String
  | .generic c _ => c
  | s => s.text

def isReadOnlyCollection (container : String) : Bool :=
  Text.hasPart "ReadOnlyCollection".toList container.toList

def isList (container : String) : Bool :=
  container == "IEnumerable" || Text.hasPart "List".toList container.toList

/-- A short sentence that says what a value of this shape is. -/
def describe : Shape → String
  | .primitive t | .simple t | .qualified t | .unknown t => withArticle t
  | .array e => "An array of " ++ e.bareName ++ "."
  | .generic c [] => withArticle c
  | .generic c (a :: _) =>
    if isReadOnlyCollection c then "A read only collection of " ++ a.bareName ++ "."
    else if isList c then "A list of " ++ a.bareName ++ "."
    else withArticle c

end Shape

mutual

/-- The shape of a reference; names with dots and references with `?` are taken as text. -/
def TypeRef.shape : TypeRef → Shape
  | .keyword t => .primitive t
  | .named t => .simple t
  | .dotted ss => .qualified (TypeRef.dotted ss).text
  | .generic c as => .generic c (TypeRef.shapes as)
  | .array e => .array e.shape
  | .nullable e => .unknown (TypeRef.nullable e).text
  | .raw t => .unknown t

def TypeRef.shapes : List TypeRef → List Shape
  | [] => []
  | t :: ts => t.shape :: TypeRef.shapes ts

end

end TripleSlash
