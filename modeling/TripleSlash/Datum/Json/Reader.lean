import TripleSlash.Datum.Basic
import TripleSlash.Datum.Json.Number

namespace TripleSlash.Json

/-- What a reader takes from the front of the text, and the text it leaves. -/
abbrev Reader (α : Type) := List Char → Option (α × List Char)

def isBlank (c : Char) : Bool := c == ' ' || c == '\n' || c == '\r' || c == '\t'

def skipBlanks (cs : List Char) : List Char := cs.dropWhile isBlank

def unescape? : Char → Option Char
  | '"' => some '"'
  | '\\' => some '\\'
  | '/' => some '/'
  | 'b' => some '\x08'
  | 'f' => some '\x0c'
  | 'n' => some '\n'
  | 'r' => some '\r'
  | 't' => some '\t'
  | _ => none

def isHighSurrogate (n : Nat) : Bool := 0xD800 ≤ n && n < 0xDC00

def isLowSurrogate (n : Nat) : Bool := 0xDC00 ≤ n && n < 0xE000

/-- The character of two surrogates that stand one after the other. -/
def pair (high low : Nat) : Char := Char.ofNat (0x10000 + (high - 0xD800) * 0x400 + (low - 0xDC00))

/-- The character that one escaped number stands for. Surrogates stand for one only in pairs. -/
def single? (n : Nat) : Option Char :=
  if isHighSurrogate n || isLowSurrogate n then none else some (Char.ofNat n)

/-- Puts a character in front of what is read; without one it is no text. -/
def cons (c : Option Char) : Option (List Char) × List Char → Option (List Char) × List Char
  | (s, rest) => (s.bind fun s => c.map (· :: s), rest)

/-- Reads a string up to its closing quote. A surrogate that stands alone makes it no text. -/
def readQuoted : Reader (Option (List Char))
  | [] => none
  | '"' :: cs => some (some [], cs)
  | '\\' :: 'u' :: a :: b :: c :: d :: cs =>
    match Decimal.natOf? 16 [a, b, c, d] with
    | none => none
    | some n =>
      match cs with
      | '\\' :: 'u' :: a :: b :: c :: d :: rest =>
        match (Decimal.natOf? 16 [a, b, c, d]).filter (isHighSurrogate n && isLowSurrogate ·) with
        | some low => (readQuoted rest).map (cons (pair n low))
        | none => (readQuoted ('\\' :: 'u' :: a :: b :: c :: d :: rest)).map (cons (single? n))
      | cs => (readQuoted cs).map (cons (single? n))
  | '\\' :: e :: cs =>
    match unescape? e with
    | none => none
    | some c => (readQuoted cs).map (cons c)
  | c :: cs =>
    if c == '\\' || c.toNat < 0x20 then none else (readQuoted cs).map (cons c)

def quoted : Option (List Char) → Datum
  | some s => .text (String.ofList s)
  | none => .unreadable

def numeric (n : Number) : Datum :=
  if n.isFinite then .number (String.ofList n.toList) else .unreadable

def readScalar : Reader Datum
  | 'n' :: 'u' :: 'l' :: 'l' :: cs => some (.null, cs)
  | 't' :: 'r' :: 'u' :: 'e' :: cs => some (.bool true, cs)
  | 'f' :: 'a' :: 'l' :: 's' :: 'e' :: cs => some (.bool false, cs)
  | '"' :: cs => (readQuoted cs).map fun (s, rest) => (quoted s, rest)
  | cs => (Number.read cs).map fun (n, rest) => (numeric n, rest)

def readItems (item : Reader α) (close : Char) : Nat → Reader (List α)
  | 0, _ => none
  | n + 1, cs =>
    match item cs with
    | none => none
    | some (a, rest) =>
      match skipBlanks rest with
      | ',' :: rest => (readItems item close n rest).map fun (as, rest) => (a :: as, rest)
      | c :: rest => if c == close then some ([a], rest) else none
      | [] => none

/-- Reads what stands between brackets, at most `n` items or nothing. -/
def readBracketed (item : Reader α) (close : Char) (n : Nat) : Reader (List α) := fun cs =>
  if (skipBlanks cs).head? = some close then some ([], (skipBlanks cs).tail)
  else readItems item close n cs

def readField (value : Reader Datum) : Reader (Datum × Datum) := fun cs =>
  match skipBlanks cs with
  | '"' :: cs =>
    match readQuoted cs with
    | none => none
    | some (name, rest) =>
      match skipBlanks rest with
      | ':' :: rest => (value rest).map fun (v, rest) => ((quoted name, v), rest)
      | _ => none
  | _ => none

/-- Reads a value that is shorter than `n` characters. -/
def readValue : Nat → Reader Datum
  | 0, _ => none
  | n + 1, cs =>
    match skipBlanks cs with
    | '[' :: cs => (readBracketed (readValue n) ']' n cs).map fun (vs, rest) => (.list vs, rest)
    | '\x7b' :: cs =>
      (readBracketed (readField (readValue n)) '\x7d' n cs).map fun (fs, rest) =>
        (.record fs, rest)
    | cs => readScalar cs

def nesting : Nat := 127

/-- Reads a text that is one value and nothing else. -/
def parse? (text : String) : Option Datum :=
  match readValue (text.toList.length + 1) text.toList with
  | some (d, rest) => if (skipBlanks rest).isEmpty then some (d.prune nesting) else none
  | none => none

end TripleSlash.Json
