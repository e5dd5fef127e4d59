import TripleSlash.CommandLine.Run

namespace TripleSlash

def Options.help : String := "\n".intercalate [
  "Writes XML documentation comments for declarations",
  "",
  "Usage: tripleslash [OPTIONS] <INPUT>",
  "",
  "Arguments:",
  "  <INPUT>  File of requests, or a directory to look for such files in",
  "",
  "Options:",
  "  -f, --format <FORMAT>            Format of the report: text, yaml or json",
  "  -o, --output <FILE>              File to write the report to",
  "  -c, --config <FILE>              File of settings, YAML or JSON",
  "      --line-ending <LINE_ENDING>  Line ending of the comments: lf or crlf",
  "  -v, --verbose                    Tell more",
  "  -h, --help                       Print help",
  "  -V, --version                    Print version",
  ""]

def UsageError.message : UsageError → String
  | missingInput => "there is no input"
  | unknownArgument => "there is an argument that is not known"
  | invalidValue => "an argument has no value, or one that it cannot have"
  | valueForFlag => "a flag has a value"
  | repeated => "an argument is given twice"
  | help => Options.help
  | version => "tripleslash 0.1.0\n"

/-- The bytes of a file. A file that cannot be read gets bytes that are no text. -/
def contentAt (path : String) : IO ByteArray := do
  match ← (IO.FS.readBinFile path).toBaseIO with
  | .ok content => return content
  | .error _ => return ⟨#[0xff]⟩

/-- Copies what stands at a path of the machine; of a directory, the files that a scan can find. -/
partial def Files.copy (f : Files) (path : String) : IO Files := do
  let .ok place ← (IO.FS.realPath path).toBaseIO | return f
  if ← place.isDir then
    (← place.readDir).foldlM
      (fun f e => do
        if isSkipped e.fileName then return f
        else if isRequestFile e.fileName || (← e.path.isDir) then
          f.copy (Path.join path e.fileName)
        else return f)
      ((f.makeDirectory? path).getD f)
  else
    let f := ((Path.parent? path).bind f.makeDirectory?).getD f
    return (f.write? path (← contentAt path)).getD f

/-- Copies what stands at paths of the machine, seen from its current directory. -/
def Files.ofMachine (paths : List String) : IO Files := do
  let here := (← IO.currentDir).toString
  let f : Files := { root := .directory [] }
  let f := (f.makeDirectory? here).getD f
  paths.foldlM Files.copy { f with here := (Path.parts here).filter (!Path.isIdle ·) }

/-- Writes a text to a file of the machine and makes its directory. -/
def saveToMachine (path text : String) : IO (Except Failure Unit) := do
  let parent := (Path.parent? path).getD ""
  if !parent.isEmpty then
    if let .error _ ← (IO.FS.createDirAll parent).toBaseIO then return .error (.noDirectory parent)
  if let .error _ ← (IO.FS.writeFile path text).toBaseIO then return .error (.notWritten path)
  return .ok ()

def runOnMachine (o : Options) : IO (Except Failure Unit) := do
  let f ← Files.ofMachine (o.input :: o.config.toList)
  match o.report f, o.output with
  | .error e, _ => return .error e
  | .ok text, none =>
    IO.print text
    return .ok ()
  | .ok text, some path => saveToMachine path text

end TripleSlash

open TripleSlash in
def main (arguments : List String) : IO UInt32 := do
  match Options.ofArguments arguments with
  | .error .help =>
    IO.print UsageError.help.message
    return 0
  | .error .version =>
    IO.print UsageError.version.message
    return 0
  | .error e =>
    IO.eprintln ("error: " ++ e.message ++ "\n\nFor more information, try '--help'.")
    return 2
  | .ok o =>
    match ← runOnMachine o with
    | .ok () => return 0
    | .error e =>
      IO.eprintln ("Error: " ++ e.message)
      return 1
