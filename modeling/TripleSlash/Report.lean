import TripleSlash.Datum.Json.Writer
import TripleSlash.Datum.Yaml.Writer
import TripleSlash.Fix.Data

namespace TripleSlash

namespace Outcome

/-- What the text report calls the outcome. -/
def label (o : Outcome) : String := o.id.getD o.declaration

/-- The part of the text report on one outcome. -/
def paragraph (o : Outcome) : String :=
  let answer :=
    match o.offered, o.text, o.reason with
    | true, some text, _ => text
    | _, _, some reason => "// no fix offered: " ++ reason ++ "\n"
    | _, _, none => "// no fix offered\n"
  "// " ++ o.label ++ "\n" ++ answer ++ "\n"

end Outcome

namespace Report

inductive Form
  | text
  | yaml
  | json
  deriving DecidableEq, Repr

namespace Form

def all : List Form := [text, yaml, json]

def tag : Form → String
  | text => "text"
  | yaml => "yaml"
  | json => "json"

end Form

def ofOutcomes (form : Form) (os : List Outcome) : String :=
  match form with
  | .text => String.join (os.map Outcome.paragraph)
  | .yaml => Yaml.block (Outcome.listToDatum os)
  | .json => Json.pretty (Outcome.listToDatum os)

end Report

end TripleSlash
