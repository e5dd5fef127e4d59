import TripleSlash.Datum.Decimal
import TripleSlash.Datum.Yaml.Character

namespace TripleSlash.Yaml

structure Place where
  line : Nat := 0
  column : Nat := 0
  index : Nat := 0
  deriving DecidableEq, Repr

namespace Place

def forward (p : Place) (n : Nat) : Place :=
  { p with column := p.column + n, index := p.index + n }

def nextLine (p : Place) : Place := { line := p.line + 1, column := 0, index := p.index + 1 }

end Place

/-- White space inside a scalar that the text behind it may still join. -/
inductive Gap
  | empty
  | blanks (cs : List Char)
  /-- The first line break and those after it. -/
  | lines (first more : List Char)

namespace Gap

def addBlank (c : Char) : Gap → Gap
  | empty => blanks [c]
  | blanks cs => blanks (cs ++ [c])
  | lines first more => lines first more

def addBreak (c : Char) : Gap → Gap
  | lines first more => lines first (more ++ [c])
  | _ => lines [c] []

def isLines : Gap → Bool
  | lines _ _ => true
  | _ => false

def isEmpty : Gap → Bool
  | empty => true
  | _ => false

/-- What the white space becomes between two pieces of text: one line break is a space, and of more
line breaks the first is dropped. -/
def join : Gap → List Char
  | empty => []
  | blanks cs => cs
  | lines first more =>
    if first == ['\n'] then if more.isEmpty then [' '] else more else first ++ more

end Gap

/-- What a scalar says, where it ends, and the text behind it. -/
structure Scanned where
  text : List Char
  place : Place
  rest : List Char

def Scanned.prepend (cs : List Char) (s : Scanned) : Scanned := { s with text := cs ++ s.text }

def atDocumentMarker (p : Place) (cs : List Char) : Bool :=
  p.column == 0 && (atMarker '-' cs || atMarker '.' cs)

/-- Reads an unquoted scalar whose lines stand at the indentation at least, and whether it ends on
a line after its last character. -/
def readPlain (inFlow : Bool) (indent : Nat) : Place → Gap → List Char → Option (Scanned × Bool)
  | p, g, [] => some (⟨[], p, []⟩, g.isLines)
  | p, g, c :: cs =>
    if isGap c then
      if g.isLines && c == '\t' && p.column < indent then none
      else readPlain inFlow indent (p.forward 1) (g.addBlank c) cs
    else if isBreak c then readPlain inFlow indent p.nextLine (g.addBreak c) cs
    else if atDocumentMarker p (c :: cs) || (c == '#' && !g.isEmpty) || (c == ':' && atGap cs) ||
        (g.isLines && !inFlow && p.column < indent) ||
        (inFlow && ",[]\x7b\x7d".toList.contains c) then
      some (⟨[], p, c :: cs⟩, g.isLines)
    else if inFlow && c == ':' && cs.head?.any ",?[]\x7b\x7d".toList.contains then none
    else
      (readPlain inFlow indent (p.forward 1) .empty cs).map fun (s, lines) =>
        (s.prepend (g.join ++ [c]), lines)

def readSingle : Place → Gap → List Char → Option Scanned
  | _, _, [] => none
  | p, g, c :: cs =>
    if isGap c then readSingle (p.forward 1) (g.addBlank c) cs
    else if isBreak c then readSingle p.nextLine (g.addBreak c) cs
    else if atDocumentMarker p (c :: cs) then none
    else if c != '\x27' then (readSingle (p.forward 1) .empty cs).map (·.prepend (g.join ++ [c]))
    else
      match cs with
      | '\x27' :: cs => (readSingle (p.forward 2) .empty cs).map (·.prepend (g.join ++ [c]))
      | cs => some ⟨g.join, p.forward 1, cs⟩

def unescape? (c : Char) : Option Char :=
  ([('0', 0x00), ('a', 0x07), ('b', 0x08), ('t', 0x09), ('\t', 0x09), ('n', 0x0A), ('v', 0x0B),
    ('f', 0x0C), ('r', 0x0D), ('e', 0x1B), (' ', 0x20), ('"', 0x22), ('/', 0x2F), ('\\', 0x5C),
    ('N', 0x85), ('_', 0xA0), ('L', 0x2028), ('P', 0x2029)].lookup c).map Char.ofNat

/-- How many hexadecimal digits follow the letter of an escape. -/
def escapeWidth? (c : Char) : Option Nat := [('x', 2), ('u', 4), ('U', 8)].lookup c

def charOfHex? (width : Nat) (cs : List Char) : Option Char :=
  if cs.length < width then none
  else ((Decimal.natOf? 16 (cs.take width)).filter Nat.isValidChar).map Char.ofNat

def readDouble (p : Place) (g : Gap) (text : List Char) : Option Scanned :=
  match text with
  | [] => none
  | c :: cs =>
    if isGap c then readDouble (p.forward 1) (g.addBlank c) cs
    else if isBreak c then readDouble p.nextLine (g.addBreak c) cs
    else if atDocumentMarker p (c :: cs) then none
    else if c == '"' then some ⟨g.join, p.forward 1, cs⟩
    else if c != '\\' then (readDouble (p.forward 1) .empty cs).map (·.prepend (g.join ++ [c]))
    else
      match cs with
      | [] => none
      | e :: cs =>
        if isBreak e then (readDouble p.nextLine (.lines [] []) cs).map (·.prepend g.join)
        else
          match escapeWidth? e with
          | some width =>
            match charOfHex? width cs with
            | none => none
            | some d =>
              (readDouble (p.forward (width + 2)) .empty (cs.drop width)).map
                (·.prepend (g.join ++ [d]))
          | none =>
            match unescape? e with
            | none => none
            | some d => (readDouble (p.forward 2) .empty cs).map (·.prepend (g.join ++ [d]))
termination_by text.length
decreasing_by all_goals simp; try omega

end TripleSlash.Yaml
