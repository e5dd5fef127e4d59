import TripleSlash.Datum.Yaml.Flow

namespace TripleSlash.Yaml

/-- The lines of a text, each with the break that ends it; the last has none. -/
def linesOf : List Char → List (List Char × List Char)
  | [] => [([], [])]
  | c :: cs =>
    if isBreak c then ([], [c]) :: linesOf cs
    else
      match linesOf cs with
      | [] => [([c], [])]
      | (line, ending) :: rest => (c :: line, ending) :: rest

def unlines (lines : List (List Char × List Char)) : List Char := lines.flatMap fun (l, e) => l ++ e

/-- What becomes of the line breaks at the end of a scalar that is written in lines. -/
inductive Chomping
  | strip
  | clip
  | keep
  deriving DecidableEq, Repr

/-- The head of a scalar in lines: whether lines are folded, how their end is treated, and their
indentation if it is given. -/
structure LinesHead where
  folded : Bool
  chomping : Chomping := .clip
  increment : Option Nat := none

/-- Reads the marks behind the bar or the angle of a head, each of them at most once. -/
def LinesHead.ofMarks? (folded : Bool) : List Char → Option LinesHead
  | [] => some { folded }
  | [a] =>
    match chomping? a, increment? a with
    | some c, _ => some { folded, chomping := c }
    | none, some n => some { folded, increment := some n }
    | none, none => none
  | [a, b] =>
    match chomping? a, increment? b, increment? a, chomping? b with
    | some c, some n, _, _ | _, _, some n, some c =>
      some { folded, chomping := c, increment := some n }
    | _, _, _, _ => none
  | _ => none
where
  chomping? (c : Char) : Option Chomping :=
    if c == '-' then some .strip else if c == '+' then some .keep else none
  increment? (c : Char) : Option Nat :=
    if c.isDigit && c != '0' then some (c.toNat - '0'.toNat) else none

/-- Reads the line of a head, less the bar or angle; a comment may end it. -/
def LinesHead.ofLine? (folded : Bool) (line : List Char) : Option LinesHead :=
  let isMark (c : Char) : Bool := c == '-' || c == '+' || c.isDigit
  let rest := (line.dropWhile isMark).dropWhile isGap
  if rest.head?.all (· == '#') then ofMarks? folded (line.takeWhile isMark) else none

def leadingSpaces (line : List Char) : Nat := (line.takeWhile (· == ' ')).length

/-- The indentation that the first lines show: the widest of the blank lines at the start and of
the line after them. No tab may stand in it. -/
def shownIndent? : List (List Char × List Char) → Option Nat
  | [] => some 0
  | (line, ending) :: rest =>
    let n := leadingSpaces line
    match line.drop n with
    | '\t' :: _ => none
    | [] => if ending.isEmpty then some n else (shownIndent? rest).map (max n)
    | _ => some n

/-- Reads the lines of a scalar that stand at the indentation. `last` is the break of the line
before, `blank` are the blank lines since, and `flush` says whether that line begins with text. -/
def readLines (head : LinesHead) (indent : Nat) (last blank : List Char) (flush : Bool) :
    List (List Char × List Char) → Option (List Char × List (List Char × List Char))
  | [] => some (ending last blank, [])
  | (line, e) :: rest =>
    let body := line.drop (min (leadingSpaces line) indent)
    if body.isEmpty then
      if e.isEmpty then some (ending last blank, [])
      else readLines head indent last (blank ++ e) flush rest
    else if leadingSpaces line < indent then
      if body.head? = some '\t' then none else some (ending last blank, (line, e) :: rest)
    else
      let starts := !body.head?.any isGap
      let fold := head.folded && last == ['\n'] && flush && starts
      let before := if fold then if blank.isEmpty then [' '] else blank else last ++ blank
      (readLines head indent e [] starts rest).map fun (text, rest) =>
        (before ++ body ++ text, rest)
where
  ending (last blank : List Char) : List Char :=
    match head.chomping with
    | .strip => []
    | .clip => last
    | .keep => last ++ blank

/-- Reads a scalar in lines from behind its bar or angle. Its lines stand at column `least` at
least; a given indentation counts from the column before. -/
def readLiteral (folded : Bool) (least : Nat) (p : Place) (cs : List Char) : Option Scanned := do
  let rest := (linesOf cs).tail
  let head ← LinesHead.ofLine? folded (cs.takeWhile (!isBreak ·))
  let indent ←
    match head.increment with
    | some n => some (least - 1 + n)
    | none => (shownIndent? rest).map (max (max least 1))
  let (text, left) ← readLines head indent [] [] true rest
  let after := unlines left
  let place : Place := {
    line := p.line + 1 + (rest.length - left.length)
    index := p.index + (cs.length - after.length) }
  return ⟨text, place, after⟩

end TripleSlash.Yaml
