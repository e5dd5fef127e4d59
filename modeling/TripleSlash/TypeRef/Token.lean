import TripleSlash.Unicode.Class
import TripleSlash.Unicode.Letter

namespace TripleSlash.TypeRef

open Unicode

inductive Token
  | name (text : String)
  | less
  | greater
  | comma
  | dot
  | question
  | openBracket
  | closeBracket
  deriving DecidableEq, Repr

namespace Token

def startsName (c : Char) : Bool := isAlphabetic c || c == '_' || c == '@'

def continuesName (c : Char) : Bool := isAlphanumeric c || c == '_'

def ofSymbol? : Char → Option Token
  | '<' => some less
  | '>' => some greater
  | ',' => some comma
  | '.' => some dot
  | '?' => some question
  | '[' => some openBracket
  | ']' => some closeBracket
  | _ => none

/-- The tokens of a text, blanks between them left out; `none` at a character of no token. -/
def scan : List Char → Option (List Token)
  | [] => some []
  | c :: cs =>
    if isBlank c then scan cs
    else if startsName c then
      (scan (cs.dropWhile continuesName)).map
        (name (String.ofList (c :: cs.takeWhile continuesName)) :: ·)
    else (ofSymbol? c).bind fun t => (scan cs).map (t :: ·)
termination_by cs => cs.length
decreasing_by
  all_goals simp only [List.length_cons]
  · omega
  · exact Nat.lt_succ_of_le (List.dropWhile_suffix _).length_le
  · omega

end Token

end TripleSlash.TypeRef
