import TripleSlash.Files.Tree

namespace TripleSlash

/-- The extensions of request files. -/
def requestExtensions : List String := ["yaml", "yml", "json"]

/-- Whether an entry of a directory is left out, with all that is in it. -/
def isSkipped (name : String) : Bool := name.toList.head? == some '.' || name == "target"

def isRequestFile (name : String) : Bool :=
  (Path.nameExtension? name).any requestExtensions.contains

/-- What is found at a path: the paths of request files, and a warning for each directory that
cannot be read. -/
structure Scan where
  files : List String := []
  warnings : List String := []
  deriving DecidableEq, Repr

/-- Orders what was found in the entries of a directory by their names and puts it together. -/
def Scan.inNameOrder (found : List (String × Scan)) : Scan :=
  let ordered := found.mergeSort fun a b => decide (a.1 ≤ b.1)
  { files := ordered.flatMap (·.2.files), warnings := ordered.flatMap (·.2.warnings) }

mutual

/-- What is found in a tree that stands at a path. Of a directory that cannot be read, `unread?` has
the reason. -/
def Tree.scan (unread? : String → Option String) (path name : String) : Tree → Scan
  | .file _ => { files := if isRequestFile name then [path] else [] }
  | .directory es =>
    match unread? path with
    | some reason => { warnings := ["Failed to access path: " ++ reason] }
    | none => .inNameOrder (scanEntries unread? path es)

/-- What is found in each entry of a directory that is not left out. -/
def scanEntries (unread? : String → Option String) (path : String) :
    List (String × Tree) → List (String × Scan)
  | [] => []
  | (n, t) :: es =>
    if isSkipped n then scanEntries unread? path es
    else (n, t.scan unread? (Path.join path n) n) :: scanEntries unread? path es

end

namespace Files

/-- What is found at a path: the file itself, or what is in the directory, in the order of the names
there. -/
def walk? (f : Files) (input : String) (unread? : String → Option String := fun _ => none) :
    Option Scan :=
  match f.get? input with
  | none => none
  | some (.file _) => some { files := [input] }
  | some (.directory es) => some ((Tree.directory es).scan unread? input "")

/-- The request files at a path. -/
def scan? (f : Files) (input : String) : Option (List String) := (f.walk? input).map (·.files)

end Files

end TripleSlash
