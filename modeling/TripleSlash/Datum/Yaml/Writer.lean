import TripleSlash.Datum.Yaml.Scalar

namespace TripleSlash.Yaml

def spaces (n : Nat) : List Char := List.replicate n ' '

def key (k : Datum) : List Char := (k.text?.getD "").toList ++ [':']

def writeFlat (indent : Nat) : Datum → List Char
  | .null | .unreadable => "null\n".toList
  | .bool b => if b then "true\n".toList else "false\n".toList
  | .number digits => digits.toList ++ ['\n']
  | .text s | .plain s => scalar indent s
  | .list _ | .sequence _ => "[]\n".toList
  | .record _ => "\x7b\x7d\n".toList

mutual

/-- Writes data that begins at a column of the current line, up to the line end. -/
def write (column : Nat) : Datum → List Char
  | .list (v :: vs) | .sequence (v :: vs) =>
    '-' :: ' ' :: write (column + 2) v ++ writeItems column vs
  | .record ((k, v) :: fs) => key k ++ writeValue column v ++ writeFields column fs
  | d => writeFlat column d

def writeItems (column : Nat) : List Datum → List Char
  | [] => []
  | v :: vs => spaces column ++ '-' :: ' ' :: write (column + 2) v ++ writeItems column vs

def writeFields (column : Nat) : List (Datum × Datum) → List Char
  | [] => []
  | (k, v) :: fs => spaces column ++ key k ++ writeValue column v ++ writeFields column fs

/-- Writes the value of a field whose name stands at the column. The items of a list stand right
under the name. -/
def writeValue (column : Nat) : Datum → List Char
  | .list (v :: vs) | .sequence (v :: vs) =>
    '\n' :: spaces column ++ '-' :: ' ' :: write (column + 2) v ++ writeItems column vs
  | .record ((k, v) :: fs) =>
    '\n' :: spaces (column + 2) ++ key k ++ writeValue (column + 2) v ++
      writeFields (column + 2) fs
  | d => ' ' :: writeFlat (column + 2) d

end

/-- The data in block style, two columns a level. -/
def block (d : Datum) : String := String.ofList (write 0 d)

end TripleSlash.Yaml
