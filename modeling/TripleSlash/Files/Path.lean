namespace TripleSlash.Path

def parts (path : String) : List String := (path.toList.splitOn '/').map String.ofList

/-- Whether a part stays in the directory that it is reached from. -/
def isIdle (part : String) : Bool := part == "" || part == "."

/-- Whether an entry of a directory can have this name. -/
def isName (part : String) : Bool := part.utf8ByteSize ≤ 255 && !part.toList.contains '\x00'

/-- Leaves out idle parts at the end, but not the first part. -/
def dropIdle (ps : List String) : List String :=
  match ps with
  | [] => []
  | p :: ps => p :: (ps.reverse.dropWhile isIdle).reverse

/-- The path of what holds the file or directory at the path; the root has none. -/
def parent? (path : String) : Option String :=
  match dropIdle (parts path) with
  | [] => none
  | [p] => if p == "" then none else some ""
  | ps =>
    match dropIdle ps.dropLast with
    | [""] => some "/"
    | ps => some ("/".intercalate ps)

def fileName? (path : String) : Option String :=
  (dropIdle (parts path)).getLast?.filter fun p => !isIdle p && p != ".."

/-- What follows the last point of a name, unless nothing stands before it. -/
def nameExtension? (name : String) : Option String :=
  let back := name.toList.reverse
  match back.dropWhile (· != '.') with
  | _ :: _ :: _ => some (String.ofList (back.takeWhile (· != '.')).reverse)
  | _ => none

def extension? (path : String) : Option String := (fileName? path).bind nameExtension?

def join (directory name : String) : String :=
  if directory.toList.getLast? = some '/' then directory ++ name else directory ++ "/" ++ name

end TripleSlash.Path
