import TripleSlash.Comment.Basic
import TripleSlash.Text.Replace

namespace TripleSlash

namespace Markup

/-- Writes text so that it stands for itself between tags. -/
def escapeText (s : String) : String :=
  String.ofList
    (Text.replace ">" "&gt;" (Text.replace "<" "&lt;" (Text.replace "&" "&amp;" s.toList)))

/-- Writes text so that it stands for itself inside a quoted attribute. -/
def escapeAttribute (s : String) : String :=
  String.ofList (Text.replace "\"" "&quot;" (escapeText s).toList)

def attr (key value : String) : String := " " ++ key ++ "=\"" ++ escapeAttribute value ++ "\""

def element (tag attributes content : String) : String :=
  "<" ++ tag ++ attributes ++ ">" ++ content ++ "</" ++ tag ++ ">"

end Markup

open Markup

def Inline.markup : Inline → String
  | .text t => escapeText t
  | .see cref => "<see" ++ attr "cref" cref ++ "/>"

def Inline.markups (content : List Inline) : String := String.join (content.map markup)

/-- The text of a node; `br` is a line break with what the next line starts with. -/
def Node.markup (br : String) : Node → String
  | .newLine => br
  | .summary content => element "summary" "" (br ++ Inline.markups content ++ br)
  | .typeParam name content =>
    element "typeparam" ((name.map (attr "name")).getD "") (Inline.markups content)
  | .param name content =>
    element "param" ((name.map (attr "name")).getD "") (Inline.markups content)
  | .returns content => element "returns" "" (Inline.markups content)
  | .exception cref content => element "exception" (attr "cref" cref) (Inline.markups content)
  | .other raw => raw

/-- The comment as lines of source text, each behind the indentation and three slashes. The empty
comment has no line. -/
def Comment.render (c : Comment) (lineEnding indentation : String) : String :=
  if c.isEmpty then ""
  else
    let start := indentation ++ "/// "
    start ++ String.join (c.map (Node.markup (lineEnding ++ start))) ++ lineEnding

end TripleSlash
