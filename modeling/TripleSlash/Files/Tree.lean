import TripleSlash.Files.Path

namespace TripleSlash

/-- A file with its bytes, or a directory with its entries by name. -/
inductive Tree
  | file (content : ByteArray)
  | directory (entries : List (String × Tree))

namespace Tree

instance : Inhabited Tree := ⟨.directory []⟩

/-- What stands at the end of a way of names. -/
def at? : Tree → List String → Option Tree
  | t, [] => some t
  | .directory es, n :: ns => (es.lookup n).bind (·.at? ns)
  | .file _, _ :: _ => none

def put : Tree → Tree → List String → Tree
  | _, new, [] => new
  | .directory es, new, n :: ns =>
    if (es.lookup n).isSome then
      .directory (es.map fun (m, t) => if m == n then (m, t.put new ns) else (m, t))
    else .directory (es ++ [(n, put (.directory []) new ns)])
  | .file content, _, _ :: _ => .file content

mutual

def files : Tree → List (List String × ByteArray)
  | .file content => [([], content)]
  | .directory es => filesOf es

def filesOf : List (String × Tree) → List (List String × ByteArray)
  | [] => []
  | (n, t) :: es => t.files.map (fun (ns, content) => (n :: ns, content)) ++ filesOf es

end

end Tree

/-- All files, and the way to the current directory. -/
structure Files where
  root : Tree
  here : List String := []

namespace Files

def start (f : Files) (path : String) : List String × List String :=
  match Path.parts path with
  | "" :: p :: ps => ([], p :: ps)
  | ps => (f.here, ps)

/-- Follows one part of a path; only directories are left. -/
def follow? (f : Files) (way : List String) (part : String) : Option (List String) :=
  match f.root.at? way with
  | some (.directory es) =>
    if Path.isIdle part then some way
    else if part == ".." then some way.dropLast
    else if (es.lookup part).isSome then some (way ++ [part])
    else none
  | _ => none

/-- The way to what stands at a path. The empty path leads nowhere. -/
def way? (f : Files) (path : String) : Option (List String) :=
  if path.isEmpty then none
  else
    let (way, parts) := f.start path
    parts.foldlM f.follow? way

def get? (f : Files) (path : String) : Option Tree := (f.way? path).bind f.root.at?

/-- The text of a file, if there is one at the path and its bytes are a text. -/
def text? (f : Files) (path : String) : Option String :=
  match f.get? path with
  | some (.file content) => String.fromUTF8? content
  | _ => none

/-- Follows one part of a path and makes the directory if there is nothing. -/
def makeStep (f : Files) (way : List String) (part : String) : Option (Files × List String) :=
  if Path.isIdle part then some (f, way)
  else if part == ".." then some (f, way.dropLast)
  else if !Path.isName part then none
  else
    let way := way ++ [part]
    match f.root.at? way with
    | some (.directory _) => some (f, way)
    | some (.file _) => none
    | none => some ({ f with root := f.root.put (.directory []) way }, way)

def makeFrom (f : Files) (way : List String) : List String → Option Files
  | [] => some f
  | part :: parts =>
    match f.makeStep way part with
    | none => none
    | some (f, way) => f.makeFrom way parts

/-- Makes the directory at a path and those on the way to it. -/
def makeDirectory? (f : Files) (path : String) : Option Files :=
  let (way, parts) := f.start path
  f.makeFrom way parts

/-- Puts a file at a path; its directory has to be there. -/
def write? (f : Files) (path : String) (content : ByteArray) : Option Files :=
  let (way, parts) := f.start path
  match parts.getLast?, parts.dropLast.foldlM f.follow? way with
  | some name, some way =>
    if Path.isIdle name || name == ".." || !Path.isName name then none
    else
      match f.root.at? way, f.root.at? (way ++ [name]) with
      | some (.directory _), none | some (.directory _), some (.file _) =>
        some { f with root := f.root.put (.file content) (way ++ [name]) }
      | _, _ => none
  | _, _ => none

end Files

end TripleSlash
