import TripleSlash.Datum.Plain
import TripleSlash.Datum.Yaml.Character

namespace TripleSlash.Yaml

inductive Style
  | plain
  | singleQuoted
  | doubleQuoted
  | literal
  deriving DecidableEq, Repr

/-- Whether some character of the first class stands right before one of the second. -/
def hasAdjacent (p q : Char → Bool) : List Char → Bool
  | a :: b :: cs => (p a && q b) || hasAdjacent p q (b :: cs)
  | _ => false

/-- Whether a colon before a gap, or a number sign behind one, stands after the first character. -/
def hasInnerIndicator : List Char → Bool
  | a :: b :: cs =>
    (b == ':' && atGap cs) || (b == '#' && (isGap a || isBreak a)) || hasInnerIndicator (b :: cs)
  | _ => false

/-- Whether the text begins like something that is no scalar. -/
def hasLeadingIndicator : List Char → Bool
  | [] => false
  | c :: cs =>
    "#,[]\x7b\x7d&*!|>\x27\"%@\x60".toList.contains c ||
      (['?', ':', '-'].contains c && atGap cs)

def beginsLikeMarker (cs : List Char) : Bool :=
  ['-', '-', '-'].isPrefixOf cs || ['.', '.', '.'].isPrefixOf cs

def atEdge (p : Char → Bool) (cs : List Char) : Bool := cs.head?.any p || cs.getLast?.any p

/-- Whether an unquoted scalar with these characters would be read as something else. -/
def needsQuotes (s : String) : Bool :=
  let cs := s.toList
  Plain.classify s != .text || Plain.hasLeadingZero cs ||
    atEdge (fun c => c == ' ' || isBreak c) cs || cs.any isBreak || beginsLikeMarker cs ||
    hasLeadingIndicator cs || hasInnerIndicator cs

/-- The plainest style that keeps the text: a text with line feeds keeps its lines, any other stays
on one line. -/
def styleOf (s : String) : Style :=
  let cs := s.toList
  let isSpace : Char → Bool := (· == ' ')
  if !cs.all isPrintable || hasAdjacent isSpace isBreak cs then .doubleQuoted
  else if cs.contains '\n' then if cs.getLast?.any isSpace then .doubleQuoted else .literal
  else if hasAdjacent isBreak isSpace cs then .doubleQuoted
  else if needsQuotes s then .singleQuoted
  else .plain

def hexDigit (n : Nat) : Char := "0123456789ABCDEF".toList.getD n '0'

def hexDigits : (width : Nat) → Nat → List Char
  | 0, _ => []
  | width + 1, n => hexDigits width (n / 16) ++ [hexDigit (n % 16)]

/-- The letters of the short escapes, by code point. -/
def shortEscapes : List (Nat × Char) :=
  [(0x00, '0'), (0x07, 'a'), (0x08, 'b'), (0x09, 't'), (0x0A, 'n'), (0x0B, 'v'), (0x0C, 'f'),
    (0x0D, 'r'), (0x1B, 'e'), (0x22, '"'), (0x5C, '\\'), (0x85, 'N'), (0xA0, '_'), (0x2028, 'L'),
    (0x2029, 'P')]

def escapeChar (c : Char) : List Char :=
  if isPrintable c && !isBreak c && c != '"' && c != '\\' then [c]
  else
    match shortEscapes.lookup c.toNat with
    | some letter => ['\\', letter]
    | none =>
      if c.toNat ≤ 0xFF then '\\' :: 'x' :: hexDigits 2 c.toNat
      else if c.toNat ≤ 0xFFFF then '\\' :: 'u' :: hexDigits 4 c.toNat
      else '\\' :: 'U' :: hexDigits 8 c.toNat

def indentLines (indent : Nat) : (lineStart : Bool) → List Char → List Char
  | _, [] => []
  | lineStart, c :: cs =>
    if isBreak c then c :: indentLines indent true cs
    else (if lineStart then List.replicate indent ' ' else []) ++ c :: indentLines indent false cs

def singleQuoted (indent : Nat) (cs : List Char) : List Char :=
  let doubled := cs.flatMap fun c => if c.toNat == 0x27 then [c, c] else [c]
  let ending := if cs.getLast?.any isBreak then List.replicate indent ' ' else []
  '\x27' :: (indentLines indent false doubled ++ ending ++ ['\x27'])

/-- What follows the bar in front of lines: their indentation where it cannot be seen, and what
becomes of the breaks at their end. -/
def literalHints (cs : List Char) : List Char :=
  let indentation := if cs.head?.any fun c => c == ' ' || isBreak c then ['2'] else []
  let chomping :=
    match cs.reverse with
    | [] => ['-']
    | [c] => if isBreak c then ['+'] else ['-']
    | c :: d :: _ => if !isBreak c then ['-'] else if isBreak d then ['+'] else []
  indentation ++ chomping

/-- The text as a scalar whose further lines have the indentation, with the line end. -/
def scalar (indent : Nat) (s : String) : List Char :=
  let cs := s.toList
  match styleOf s with
  | .plain => cs ++ ['\n']
  | .singleQuoted => singleQuoted indent cs ++ ['\n']
  | .doubleQuoted => '"' :: (cs.flatMap escapeChar ++ ['"', '\n'])
  | .literal =>
    '|' :: (literalHints cs ++ '\n' :: indentLines indent true cs ++
      if cs.getLast?.any isBreak then [] else ['\n'])

end TripleSlash.Yaml
