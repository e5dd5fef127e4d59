import TripleSlash.Datum.Basic
import TripleSlash.Datum.Yaml.Literal

namespace TripleSlash.Yaml

inductive Token
  | documentStart
  | documentEnd
  /-- The start of a list whose items stand under one another. -/
  | blockList
  /-- The start of a record whose fields stand under one another. -/
  | blockRecord
  | blockEnd
  | openList
  | closeList
  | openRecord
  | closeRecord
  | comma
  | item
  | key
  | value
  | scalar (d : Datum)

/-- A place where a key may begin that only a later colon shows to be one. -/
structure Candidate where
  place : Place
  /-- How many tokens stand before it. -/
  before : Nat
  /-- Whether nothing but a key can stand there. -/
  required : Bool

structure Scan where
  rest : List Char
  place : Place := {}
  /-- The columns of the open blocks, the innermost first. -/
  blocks : List Nat := []
  /-- A candidate for each open bracket and one for what is outside, the innermost first. -/
  candidates : List (Option Candidate) := [none]
  keyAllowed : Bool := true
  /-- The tokens so far, the last first. -/
  tokens : List Token := []

namespace Scan

def inFlow (s : Scan) : Bool := s.candidates.length > 1

/-- The least column of what belongs to the innermost block. -/
def leastColumn (s : Scan) : Nat := (s.blocks.head?.map (· + 1)).getD 0

def emit (s : Scan) (t : Token) : Scan := { s with tokens := t :: s.tokens }

def emitAt (s : Scan) (before : Nat) (t : Token) : Scan :=
  let later := s.tokens.length - before
  { s with tokens := s.tokens.take later ++ t :: s.tokens.drop later }

def forward (s : Scan) (n : Nat) : Scan :=
  { s with rest := s.rest.drop n, place := s.place.forward n }

/-- Passes over blanks, comments and line breaks, and over a byte order mark that begins a line.
After a line break outside brackets a key may stand; where a key may stand, no tab may. -/
def skip (inFlow : Bool) : Place → Bool → Bool → List Char → Place × Bool × List Char
  | p, keyAllowed, _, [] => (p, keyAllowed, [])
  | p, keyAllowed, inComment, c :: cs =>
    if isBreak c then skip inFlow p.nextLine (keyAllowed || !inFlow) false cs
    else if inComment || c == ' ' || (c == '\t' && (inFlow || !keyAllowed)) ||
        (c.toNat == 0xFEFF && p.column == 0) then
      skip inFlow (p.forward 1) keyAllowed inComment cs
    else if c == '#' then skip inFlow (p.forward 1) keyAllowed true cs
    else (p, keyAllowed, c :: cs)

def skipBlanks (s : Scan) : Scan :=
  let (place, keyAllowed, rest) := skip s.inFlow s.place s.keyAllowed false s.rest
  { s with place, keyAllowed, rest }

/-- Whether a key that begins at the candidate could still end here: a key stands on one line and
is not long. -/
def isFresh (s : Scan) (c : Candidate) : Bool :=
  c.place.line == s.place.line && s.place.index ≤ c.place.index + 1024

def dropStale (s : Scan) : Option Scan :=
  let stale (c : Candidate) : Bool := !s.isFresh c
  if s.candidates.any (·.any fun c => stale c && c.required) then none
  else some { s with candidates := s.candidates.map (·.filter s.isFresh) }

def dropCandidate (s : Scan) : Option Scan :=
  match s.candidates with
  | some c :: cs => if c.required then none else some { s with candidates := none :: cs }
  | _ => some s

/-- Takes the present place for the start of a key, if one may stand here. -/
def addCandidate (s : Scan) : Option Scan :=
  if s.keyAllowed then
    s.dropCandidate.map fun s =>
      let c : Candidate :=
        { place := s.place, before := s.tokens.length,
          required := !s.inFlow && s.blocks.head? == some s.place.column }
      { s with candidates := some c :: s.candidates.tail }
  else some s

def closeBlocks (s : Scan) (column : Nat) : Scan :=
  if s.inFlow then s
  else
    let (closed, blocks) := (s.blocks.takeWhile (column < ·), s.blocks.dropWhile (column < ·))
    { s with blocks, tokens := closed.map (fun _ => .blockEnd) ++ s.tokens }

def closeAllBlocks (s : Scan) : Scan :=
  if s.inFlow then s
  else { s with blocks := [], tokens := s.blocks.map (fun _ => .blockEnd) ++ s.tokens }

def openBlock (s : Scan) (column before : Nat) (t : Token) : Scan :=
  if s.inFlow || s.blocks.head?.any (column ≤ ·) then s
  else { s.emitAt before t with blocks := column :: s.blocks }

def scanMarker (s : Scan) (t : Token) : Option Scan :=
  s.closeAllBlocks.dropCandidate.map fun s => { (s.emit t).forward 3 with keyAllowed := false }

def scanOpen (s : Scan) (t : Token) : Option Scan :=
  s.addCandidate.map fun s =>
    { (s.emit t).forward 1 with candidates := none :: s.candidates, keyAllowed := true }

def scanClose (s : Scan) (t : Token) : Option Scan :=
  s.dropCandidate.map fun s =>
    let outer := if s.inFlow then s.candidates.tail else s.candidates
    { (s.emit t).forward 1 with candidates := outer, keyAllowed := false }

def scanComma (s : Scan) : Option Scan :=
  s.dropCandidate.map fun s => { (s.emit .comma).forward 1 with keyAllowed := true }

/-- Scans the dash of an item or the question mark of a key: outside brackets it begins a block. -/
def scanIndicator (s : Scan) (block t : Token) (keyAllowed : Bool) : Option Scan :=
  if !s.inFlow && !s.keyAllowed then none
  else
    (s.openBlock s.place.column s.tokens.length block).dropCandidate.map fun s =>
      { (s.emit t).forward 1 with keyAllowed }

/-- Scans a colon: what stands at the candidate before it becomes a key. -/
def scanValue (s : Scan) : Option Scan :=
  match s.candidates with
  | some c :: outer =>
    let s := { s with candidates := none :: outer }
    let s := (s.emitAt c.before .key).openBlock c.place.column c.before .blockRecord
    some { (s.emit .value).forward 1 with keyAllowed := false }
  | _ =>
    if !s.inFlow && !s.keyAllowed then none
    else
      let s := s.openBlock s.place.column s.tokens.length .blockRecord
      some { (s.emit .value).forward 1 with keyAllowed := !s.inFlow }

def emitScanned (s : Scan) (keyAllowed : Bool) (make : String → Datum) (t : Scanned) : Scan :=
  { s.emit (.scalar (make (String.ofList t.text))) with
    rest := t.rest, place := t.place, keyAllowed }

def scanQuoted (s : Scan) (read : Place → Gap → List Char → Option Scanned) : Option Scan := do
  let s ← s.addCandidate
  let t ← read (s.place.forward 1) .empty s.rest.tail
  return s.emitScanned false .text t

def scanLiteral (s : Scan) (folded : Bool) : Option Scan := do
  let s ← s.dropCandidate
  let t ← readLiteral folded s.leastColumn (s.place.forward 1) s.rest.tail
  return s.emitScanned true .text t

def scanPlain (s : Scan) : Option Scan := do
  let s ← s.addCandidate
  let (t, lines) ← readPlain s.inFlow s.leastColumn s.place .empty s.rest
  return s.emitScanned lines .plain t

/-- Whether an unquoted scalar may begin with the character in front of the text. -/
def beginsPlain (inFlow : Bool) (c : Char) (cs : List Char) : Bool :=
  if c == '-' then !cs.head?.any isGap
  else if c == '?' || c == ':' then !inFlow && !atGap cs
  else !"-?:,[]\x7b\x7d#&*!|>\x27\"%@\x60".toList.contains c && !isGap c

/-- Scans the token that begins here. Anchors, tags and directives are no tokens. -/
def scanToken (s : Scan) (c : Char) (cs : List Char) : Option Scan :=
  if atDocumentMarker s.place (c :: cs) then
    s.scanMarker (if c == '-' then .documentStart else .documentEnd)
  else if c == '[' then s.scanOpen .openList
  else if c == '\x7b' then s.scanOpen .openRecord
  else if c == ']' then s.scanClose .closeList
  else if c == '\x7d' then s.scanClose .closeRecord
  else if c == ',' then s.scanComma
  else if c == '-' && atGap cs then s.scanIndicator .blockList .item true
  else if c == '?' && (s.inFlow || atGap cs) then s.scanIndicator .blockRecord .key (!s.inFlow)
  else if c == ':' && (s.inFlow || atGap cs) then s.scanValue
  else if (c == '|' || c == '>') && !s.inFlow then s.scanLiteral (c == '>')
  else if c == '\x27' then s.scanQuoted readSingle
  else if c == '"' then s.scanQuoted readDouble
  else if beginsPlain s.inFlow c cs then s.scanPlain
  else none

def run : Nat → Scan → Option (List Token)
  | 0, _ => none
  | n + 1, s => do
    let s ← s.skipBlanks.dropStale
    match s.rest with
    | [] => s.closeAllBlocks.dropCandidate.map (·.tokens.reverse)
    | c :: cs => run n (← (s.closeBlocks s.place.column).scanToken c cs)

end Scan

/-- Writes every line break that is not one character of its own as a line feed. -/
def plainBreaks : List Char → List Char
  | [] => []
  | '\r' :: '\n' :: cs => '\n' :: plainBreaks cs
  | c :: cs => (if c == '\r' || c.toNat == 0x85 then '\n' else c) :: plainBreaks cs

def tokens? (text : String) : Option (List Token) :=
  let cs := plainBreaks text.toList
  if cs.all isAllowed then Scan.run (cs.length + 1) { rest := cs } else none

end TripleSlash.Yaml
