import TripleSlash.TypeRef.Basic
import TripleSlash.TypeRef.Token

namespace TripleSlash.TypeRef

/-- How deep argument lists and suffixes may nest. -/
def nesting : Nat := 64

/-- What a reader takes from the front of the tokens, and the tokens it leaves. -/
abbrev Reader (α : Type) := List Token → Option (α × List Token)

/-- Reads at most `n` items with a separator between each two. -/
def separated (sep : Token) (item : Reader α) : Nat → Reader (List α)
  | 0, _ => none
  | n + 1, ts =>
    match item ts with
    | none => none
    | some (a, rest) =>
      if rest.head? = some sep then
        (separated sep item n rest.tail).map fun (as, rest) => (a :: as, rest)
      else some ([a], rest)

/-- Reads a name and, behind `<`, its arguments. A bare keyword is no name. -/
def segment (arguments : Reader (List TypeRef)) : Reader TypeRef
  | .name n :: .less :: ts =>
    match arguments ts with
    | some (as, .greater :: rest) => some (.generic n as, rest)
    | _ => none
  | .name n :: ts => some (if keywords.contains n then .keyword n else .named n, ts)
  | _ => none

def isKeyword : TypeRef → Bool
  | .keyword _ => true
  | _ => false

/-- Makes one reference of segments with dots between them; a keyword has no dot at its side. -/
def ofSegments? : List TypeRef → Option TypeRef
  | [] => none
  | [s] => some s
  | ss => if ss.any isKeyword then none else some (.dotted ss)

/-- Reads suffixes while there is room for them. -/
def suffixes : Nat → TypeRef → Reader TypeRef
  | 0, t, ts =>
    match ts with
    | .question :: _ | .openBracket :: _ => none
    | _ => some (t, ts)
  | room + 1, t, ts =>
    match ts with
    | .question :: rest => suffixes room (.nullable t) rest
    | .openBracket :: rest =>
      match rest.dropWhile (· == .comma) with
      | .closeBracket :: rest => suffixes room (.array t) rest
      | _ => none
    | _ => some (t, ts)

/-- Reads a reference whose argument lists are read by `arguments` and which has room for so many
suffixes. -/
def reference (room : Nat) (arguments : Reader (List TypeRef)) : Reader TypeRef := fun ts =>
  match separated .dot (segment arguments) ts.length ts with
  | none => none
  | some (ss, rest) => (ofSegments? ss).bind fun t => suffixes room t rest

/-- Reads a reference; each level of argument lists has room for one level less. -/
def read : Nat → Reader TypeRef
  | 0 => reference 0 fun _ => none
  | room + 1 => reference (room + 1) fun ts => separated .comma (read room) ts.length ts

/-- The reference that a text spells, or the text itself, trimmed, where it spells none. -/
def parse (text : String) : TypeRef :=
  match (Token.scan text.toList).bind (read nesting) with
  | some (t, []) => t
  | _ => .raw (String.ofList (Unicode.trim text.toList))

end TripleSlash.TypeRef
