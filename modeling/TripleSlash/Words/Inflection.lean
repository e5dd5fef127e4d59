import TripleSlash.Unicode.Letter
import TripleSlash.Words.Basic

namespace TripleSlash.Words

open Unicode

/-- Verbs that are in the third person already or have no such form. -/
def uninflected : List String :=
  ["can", "could", "may", "might", "must", "shall", "should", "will", "would", "is", "has",
    "does", "was", "are", "were"]

/-- Leading words of method names that are no verbs. -/
def nonVerbs : List String :=
  ["to", "on", "as", "from", "with", "without", "for", "by", "in", "into", "of", "at", "if",
    "or", "and", "not", "before", "after", "when", "while", "main", "async", "all", "any",
    "each", "new", "default", "inner", "base", "this", "self", "op"]

def irregular : List (String × String) :=
  [("be", "is"), ("have", "has"), ("do", "does"), ("go", "goes")]

def isVowel (c : Char) : Bool := ['a', 'e', 'i', 'o', 'u'].contains c

/-- The regular third person of a lower-case verb, decided by its last letters. -/
def addEnding (verb : List Char) : List Char :=
  match verb.reverse with
  | 's' :: 's' :: _ | 'h' :: 's' :: _ | 'h' :: 'c' :: _ | 'x' :: _ | 'z' :: _ | 'o' :: _ =>
    verb ++ ['e', 's']
  | 's' :: _ => verb
  | 'y' :: before =>
    if before.head?.any isVowel then verb ++ ['s'] else before.reverse ++ ['i', 'e', 's']
  | _ => verb ++ ['s']

/-- The third person of a lower-case verb. -/
def inflect (verb : String) : List Char :=
  match irregular.lookup verb with
  | some form => form.toList
  | none => addEnding verb.toList

/-- A word of two letters or more with no capital after its first letter. -/
def isPlain : List Char → Bool
  | [] | [_] => false
  | c :: cs => (c :: cs).all isAlphabetic && !cs.any isUppercase

def capitalize : List Char → List Char
  | [] => []
  | c :: cs => upperChar c ++ cs

/-- The third person singular of a verb, its first letter keeping its case. Words that are not
plain and words that are no regular verbs stay as they are. -/
def thirdPerson (word : String) : String :=
  let stem := lower word
  if !isPlain word.toList || uninflected.contains stem || nonVerbs.contains stem then word
  else
    let form := inflect stem
    String.ofList (if word.toList.head?.any isUppercase then capitalize form else form)

end TripleSlash.Words
