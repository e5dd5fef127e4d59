import TripleSlash.Declaration.Accessor
import TripleSlash.Settings.Basic
import TripleSlash.Words.Inflection

namespace TripleSlash.Prose

open Words

/-- The summary of a method or delegate, its first word in the third person if wanted. -/
def methodSummary (name : String) (inflected : Bool) : String :=
  let words := recase false false (split name)
  join (if inflected then words.modifyHead thirdPerson else words) ++ "."

/-- `The <words>.` with the first word dropped if it is a single character and that is wanted. -/
def nounPhrase (name : String) (dropInitial : Bool) : String :=
  "The " ++ join (recase true dropInitial (split name)) ++ "."

def parameterText (name : String) (boolean : Bool) : String :=
  if boolean then "If true, " ++ phrase true name ++ "." else nounPhrase name false

/-- The text on a type parameter; a leading single letter is dropped unless it is all there is. -/
def typeParameterText (name : String) : String :=
  match split name with
  | [word] =>
    if word.length == 1 then "The type of " ++ upper word ++ "."
    else "The type of the " ++ join (recase true true [word]) ++ "."
  | words => "The type of the " ++ join (recase true true words) ++ "."

def accessVerb (visible : VisibleAccessors) : String :=
  if visible.setter then "Gets or sets" else "Gets"

/-- Moves the first `is` to the place before the last of the other words. -/
def moveIs (words : List String) : List String :=
  if words.contains "is" then
    let others := words.erase "is"
    others.dropLast ++ "is" :: others.getLast?.toList
  else words

def propertySummary (name : String) (visible : VisibleAccessors) (boolean : Bool) : String :=
  let object :=
    if boolean then
      "a value indicating whether " ++ join (moveIs (recase true false (split name)))
    else "the " ++ phrase true name
  accessVerb visible ++ " " ++ object ++ "."

def indexerSummary (visible : VisibleAccessors) (phrases : Phrases) : String :=
  accessVerb visible ++ " " ++ phrases.indexerObject ++ "."

def eventSummary (name : String) (phrases : Phrases) : String :=
  phrases.eventLead ++ phrase true name ++ "."

def enumMemberSummary (name : String) : String := phrase false name ++ "."

end TripleSlash.Prose
