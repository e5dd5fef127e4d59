import TripleSlash.Datum.Json.Reader
import TripleSlash.Datum.Yaml.Reader
import TripleSlash.Files.Tree
import TripleSlash.Fix.Data
import TripleSlash.Settings.Data

namespace TripleSlash

/-- Whether the extension of a path says that the file is JSON; any other file is YAML. -/
def isJsonPath (path : String) : Bool := Path.extension? path == some "json"

/-- The data that a text in a file of the given path holds. -/
def Datum.ofFileText? (path text : String) : Option Datum :=
  if isJsonPath path then Json.parse? text else Yaml.parse? text

inductive LoadError
  /-- There is no file, or its bytes are no text. -/
  | unreadable
  /-- The text does not hold a list of requests. -/
  | malformed
  deriving DecidableEq, Repr

inductive SettingsError
  | unreadable (path : String)
  | malformed (path : String)
  deriving DecidableEq, Repr

def SettingsError.message : SettingsError → String
  | unreadable path => "Failed to read settings file: " ++ path
  | malformed path =>
    "Invalid " ++ (if isJsonPath path then "JSON" else "YAML") ++ " settings in " ++ path

namespace Files

/-- The requests in the file at a path. -/
def requests (f : Files) (path : String) : Except LoadError (List Request) :=
  match f.text? path with
  | none => .error .unreadable
  | some text =>
    match (Datum.ofFileText? path text).bind Request.listOfDatum? with
    | none => .error .malformed
    | some rs => .ok rs

/-- The settings in the file at a path. -/
def settings (f : Files) (path : String) : Except SettingsError Settings :=
  match f.text? path with
  | none => .error (.unreadable path)
  | some text =>
    match (Datum.ofFileText? path text).bind Settings.ofDatum? with
    | none => .error (.malformed path)
    | some s => .ok s

end Files

end TripleSlash
