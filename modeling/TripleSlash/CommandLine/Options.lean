import TripleSlash.Report
import TripleSlash.Settings.Basic

namespace TripleSlash

structure Options where
  input : String
  form : Report.Form := .text
  output : Option String := none
  config : Option String := none
  lineEnding : Option LineEnding := none
  verbose : Bool := false
  deriving DecidableEq, Repr

/-- Why the arguments are no command line, or what they ask for instead of a run. -/
inductive UsageError
  | missingInput
  | unknownArgument
  | invalidValue
  | valueForFlag
  | repeated
  | help
  | version
  deriving DecidableEq, Repr

namespace Options

/-- The arguments that have a value. -/
inductive Valued
  | input
  | form
  | output
  | config
  | lineEnding
  deriving DecidableEq, Repr

inductive Flag
  | verbose
  | help
  | version
  deriving DecidableEq, Repr

def valuedOfLetter? : Char → Option Valued
  | 'f' => some .form
  | 'o' => some .output
  | 'c' => some .config
  | _ => none

def flagOfLetter? : Char → Option Flag
  | 'v' => some .verbose
  | 'h' => some .help
  | 'V' => some .version
  | _ => none

def valuedOfName? : String → Option Valued
  | "format" => some .form
  | "output" => some .output
  | "config" => some .config
  | "line-ending" => some .lineEnding
  | _ => none

def flagOfName? : String → Option Flag
  | "verbose" => some .verbose
  | "help" => some .help
  | "version" => some .version
  | _ => none

/-- The arguments read so far. An argument with a value waits until the next one comes: only then
its value is looked at. -/
structure Reading where
  input : Option String := none
  form : Option Report.Form := none
  output : Option String := none
  config : Option String := none
  lineEnding : Option LineEnding := none
  verbose : Bool := false
  /-- Whether the input has been given, settled or not. -/
  hasInput : Bool := false
  waiting : Option (Valued × Option String) := none

namespace Reading

/-- Fills a place that has to be empty; the value is looked at after that. -/
def fill (old : Option α) (value : Option α) : Except UsageError (Option α) :=
  match old, value with
  | some _, _ => .error .repeated
  | none, none => .error .invalidValue
  | none, some a => .ok (some a)

def path? (value : String) : Option String := if value.isEmpty then none else some value

def take (r : Reading) (v : Valued) (value : String) : Except UsageError Reading :=
  match v with
  | .input => return { r with input := ← fill r.input (path? value) }
  | .form => return { r with form := ← fill r.form (Report.Form.all.find? (·.tag == value)) }
  | .output => return { r with output := ← fill r.output (path? value) }
  | .config => return { r with config := ← fill r.config (path? value) }
  | .lineEnding =>
    return { r with lineEnding := ← fill r.lineEnding (LineEnding.all.find? (·.tag == value)) }

def settle (r : Reading) : Except UsageError Reading :=
  match r.waiting with
  | none => .ok r
  | some (_, none) => .error .invalidValue
  | some (v, some value) => { r with waiting := none }.take v value

def wait (r : Reading) (v : Valued) : Except UsageError Reading :=
  return { ← r.settle with waiting := some (v, none) }

def attach (r : Reading) (v : Valued) (value : String) : Except UsageError Reading := do
  (← r.settle).take v value

def raise (r : Reading) (f : Flag) : Except UsageError Reading := do
  let r ← r.settle
  match f with
  | .verbose => if r.verbose then .error .repeated else return { r with verbose := true }
  | .help => .error .help
  | .version => .error .version

/-- Reads the letters behind a single dash. The first that has a value takes the rest for it. -/
def readLetters (r : Reading) : List Char → Except UsageError Reading
  | [] => .ok r
  | c :: cs =>
    match flagOfLetter? c, valuedOfLetter? c with
    | some f, _ => do (← r.raise f).readLetters cs
    | none, some v =>
      match cs with
      | [] => r.wait v
      | '=' :: value | value => r.attach v (String.ofList value)
    | none, none => .error .unknownArgument

/-- Reads a name behind two dashes, with its value if an equals sign attaches one. -/
def readName (r : Reading) (cs : List Char) : Except UsageError Reading :=
  let name := String.ofList (cs.takeWhile (· != '='))
  let value :=
    match cs.dropWhile (· != '=') with
    | [] => none
    | _ :: value => some (String.ofList value)
  match flagOfName? name, valuedOfName? name, value with
  | some f, _, none => r.raise f
  | some _, _, some _ => .error .valueForFlag
  | none, some v, none => r.wait v
  | none, some v, some value => r.attach v value
  | none, none, _ => .error .unknownArgument

def readInput (r : Reading) (value : String) : Except UsageError Reading :=
  if r.hasInput then .error .unknownArgument
  else return { ← r.settle with hasInput := true, waiting := some (.input, some value) }

def readArgument (r : Reading) (argument : String) : Except UsageError Reading :=
  match argument.toList with
  | '-' :: '-' :: cs => r.readName cs
  | '-' :: c :: cs => r.readLetters (c :: cs)
  | _ =>
    match r.waiting with
    | some (v, none) => .ok { r with waiting := some (v, some argument) }
    | _ => r.readInput argument

/-- Reads arguments; behind `--` all of them are inputs. -/
def read (r : Reading) : List String → Except UsageError Reading
  | [] => r.settle
  | "--" :: rest => do (← rest.foldlM readInput r).settle
  | argument :: rest => do (← r.readArgument argument).read rest

end Reading

def ofArguments (arguments : List String) : Except UsageError Options := do
  let r ← ({} : Reading).read arguments
  match r.input with
  | none => .error .missingInput
  | some input =>
    return {
      input, form := r.form.getD .text, output := r.output, config := r.config
      lineEnding := r.lineEnding, verbose := r.verbose }

end Options

end TripleSlash
