namespace TripleSlash

inductive LineEnding
  | lf
  | crlf
  deriving DecidableEq, Repr

namespace LineEnding

def all : List LineEnding := [lf, crlf]

def text : LineEnding → String
  | lf => "\n"
  | crlf => "\r\n"

def tag : LineEnding → String
  | lf => "lf"
  | crlf => "crlf"

end LineEnding

/-- The fixed wording of generated comments. -/
structure Phrases where
  eventLead : String := "Occurs when "
  taskLead : String := "A "
  taskTrail : String := " representing the asynchronous operation."
  taskCref : String := "Task"
  genericTaskCref : String := "Task\x7bTResult\x7d"
  indexerObject : String := "the element at the specified index"
  indexerReturns : String := "The element at the specified index."
  constructorLead : String := "Initializes a new instance of the "
  destructorLead : String := "Finalizes an instance of the "
  deriving DecidableEq, Repr

structure Settings where
  lineEnding : LineEnding := .lf
  /-- The simple names of awaitable types. -/
  awaitables : List String := ["Task", "ValueTask"]
  /-- Whether the leading verb of a method goes into the third person. -/
  inflectVerbs : Bool := true
  phrases : Phrases := {}
  deriving DecidableEq, Repr

end TripleSlash
