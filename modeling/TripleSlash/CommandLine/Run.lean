import TripleSlash.CommandLine.Options
import TripleSlash.Files.Load
import TripleSlash.Files.Scan

namespace TripleSlash

inductive Failure
  | usage (error : UsageError)
  | noInput (path : String)
  | settings (error : SettingsError)
  | noRequestFiles (path : String)
  | nothingLoaded
  | noDirectory (path : String)
  | notWritten (path : String)
  deriving DecidableEq, Repr

namespace Failure

/-- The words for a failure; a usage error is told in other ways. -/
def message : Failure → String
  | usage _ => ""
  | noInput path => "Input path does not exist: " ++ path
  | settings e => e.message
  | noRequestFiles path => "No request files found under " ++ path
  | nothingLoaded => "No request files could be loaded"
  | noDirectory path => "Failed to create directory: " ++ path
  | notWritten path => "Failed to write to file: " ++ path

end Failure

namespace Options

/-- The settings of a run: those of the file, if there is one, with the line ending of the command
line. -/
def settings (o : Options) (f : Files) : Except Failure Settings := do
  let s ←
    match o.config with
    | none => .ok {}
    | some path => (f.settings path).mapError .settings
  return { s with lineEnding := o.lineEnding.getD s.lineEnding }

/-- The request files of a run; there is at least one. -/
def requestFiles (o : Options) (f : Files) : Except Failure (List String) :=
  match f.scan? o.input with
  | none => .error (.noInput o.input)
  | some [] => .error (.noRequestFiles o.input)
  | some paths => .ok paths

/-- The requests of the files that can be loaded; that is one at least. -/
def requests (f : Files) (paths : List String) : Except Failure (List Request) :=
  match paths.filterMap fun path => (f.requests path).toOption with
  | [] => .error .nothingLoaded
  | loaded => .ok loaded.flatten

def report (o : Options) (f : Files) : Except Failure String := do
  if (f.get? o.input).isNone then .error (.noInput o.input)
  let s ← o.settings f
  let rs ← requests f (← o.requestFiles f)
  return Report.ofOutcomes o.form (rs.map (·.outcome s))

end Options

namespace Files

def save (path text : String) : ExceptT Failure (StateM Files) Unit := do
  if let some parent := Path.parent? path then
    match (← get).makeDirectory? parent with
    | none => throw (.noDirectory parent)
    | some f => set f
  match (← get).write? path text.toUTF8 with
  | none => throw (.notWritten path)
  | some f => set f

end Files

/-- Runs with these options on files. What is printed is the result; with an output file nothing is
printed. -/
def Options.run (o : Options) : ExceptT Failure (StateM Files) String := do
  let text ← MonadExcept.ofExcept (o.report (← get))
  match o.output with
  | none => return text
  | some path =>
    Files.save path text
    return ""

/-- Runs a command line on files. -/
def run (arguments : List String) : ExceptT Failure (StateM Files) String := do
  let o ← MonadExcept.ofExcept ((Options.ofArguments arguments).mapError Failure.usage)
  o.run

end TripleSlash
