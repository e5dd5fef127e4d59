namespace TripleSlash.Text

/-- Scans for `old` from left to right and puts `new` in its place; `skip` characters of the last
match are still to be passed over. -/
def replaceFrom (old new : List Char) : Nat → List Char → List Char
  | _, [] => []
  | skip + 1, _ :: cs => replaceFrom old new skip cs
  | 0, c :: cs =>
    if old.isPrefixOf (c :: cs) then new ++ replaceFrom old new (old.length - 1) cs
    else c :: replaceFrom old new 0 cs

/-- Replaces every occurrence of a nonempty text by another. -/
def replace (old new : String) (cs : List Char) : List Char :=
  replaceFrom old.toList new.toList 0 cs

/-- Whether `part` occurs in the text. -/
def hasPart (part : List Char) : List Char → Bool
  | [] => part.isEmpty
  | c :: cs => part.isPrefixOf (c :: cs) || hasPart part cs

end TripleSlash.Text
