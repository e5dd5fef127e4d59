import TripleSlash.Unicode.Casing
import TripleSlash.Unicode.Class

namespace TripleSlash.Words

open Unicode

/-- The words of a name: a new word starts at every upper-case character but the first. The
empty name has one empty word. -/
def split (name : String) : List String :=
  if name.isEmpty then [""]
  else (name.toList.splitBy fun _ c => !isUppercase c).map String.ofList

def lower (word : String) : String := String.ofList (lowercase word.toList)

def upper (word : String) : String := String.ofList (uppercase word.toList)

/-- Lower-cases every word after the first, and the first as well with `lowerFirst`; with
`dropInitial` a first word of a single character is left out. -/
def recase (lowerFirst dropInitial : Bool) : List String → List String
  | [] => []
  | w :: ws =>
    let rest := ws.map lower
    if dropInitial && w.length == 1 then rest
    else (if lowerFirst then lower w else w) :: rest

def join (words : List String) : String := " ".intercalate words

/-- The name written as words with single spaces between them. -/
def phrase (lowerFirst : Bool) (name : String) : String :=
  join (recase lowerFirst false (split name))

end TripleSlash.Words
