import TripleSlash.Datum.Basic

namespace TripleSlash.Json

def hexDigit (n : Nat) : Char := "0123456789abcdef".toList.getD n '0'

def escapeChar (c : Char) : List Char :=
  if c == '"' then ['\\', '"']
  else if c == '\\' then ['\\', '\\']
  else if c.toNat == 0x08 then ['\\', 'b']
  else if c.toNat == 0x0C then ['\\', 'f']
  else if c == '\n' then ['\\', 'n']
  else if c == '\r' then ['\\', 'r']
  else if c == '\t' then ['\\', 't']
  else if c.toNat < 0x20 then
    ['\\', 'u', '0', '0', hexDigit (c.toNat / 16), hexDigit (c.toNat % 16)]
  else [c]

def quote (s : String) : List Char := '"' :: (s.toList.flatMap escapeChar ++ ['"'])

/-- A line break and the indentation of the line after it, two spaces a level. -/
def newLine (level : Nat) : List Char := '\n' :: List.replicate (2 * level) ' '

def key (k : Datum) : List Char := quote (k.text?.getD "")

mutual

/-- Writes data whose inner lines stand one level deeper than `level`. -/
def write (level : Nat) : Datum → List Char
  | .null | .unreadable => ['n', 'u', 'l', 'l']
  | .bool true => ['t', 'r', 'u', 'e']
  | .bool false => ['f', 'a', 'l', 's', 'e']
  | .number digits => digits.toList
  | .text s | .plain s => quote s
  | .list [] | .sequence [] => ['[', ']']
  | .list (v :: vs) | .sequence (v :: vs) =>
    '[' :: newLine (level + 1) ++ write (level + 1) v ++ writeItems (level + 1) vs ++
      newLine level ++ [']']
  | .record [] => ['\x7b', '\x7d']
  | .record ((k, v) :: fs) =>
    '\x7b' :: newLine (level + 1) ++ key k ++ [':', ' '] ++ write (level + 1) v ++
      writeFields (level + 1) fs ++ newLine level ++ ['\x7d']

def writeItems (level : Nat) : List Datum → List Char
  | [] => []
  | v :: vs => ',' :: newLine level ++ write level v ++ writeItems level vs

def writeFields (level : Nat) : List (Datum × Datum) → List Char
  | [] => []
  | (k, v) :: fs =>
    ',' :: newLine level ++ key k ++ [':', ' '] ++ write level v ++ writeFields level fs

end

def pretty (d : Datum) : String := String.ofList (write 0 d)

end TripleSlash.Json
