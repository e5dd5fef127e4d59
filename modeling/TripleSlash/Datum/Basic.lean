import TripleSlash.Datum.Decimal

namespace TripleSlash

/-- A tree of data as a file holds it. -/
inductive Datum
  | null
  | bool (value : Bool)
  /-- A number, as it is written. -/
  | number (digits : String)
  | text (value : String)
  /-- An unquoted scalar, whose type is up to its reader. -/
  | plain (written : String)
  /-- A list, which may also stand for the record that has its items in order. -/
  | list (items : List Datum)
  /-- A list that stands for nothing else. -/
  | sequence (items : List Datum)
  | record (fields : List (Datum × Datum))
  /-- Data that can be passed over but not read. -/
  | unreadable
  deriving Repr, Inhabited

namespace Datum

abbrev Fields := List (String × Datum)

def ofFields (fs : Fields) : Datum := .record (fs.map fun (n, v) => (.text n, v))

/-- Whether each of the names stands at most once. -/
def Fields.distinct (names : List String) (fs : Fields) : Bool :=
  names.all fun n => (fs.filter (·.1 == n)).length ≤ 1

mutual

/-- The data in which lists and records nest no deeper than given; what is below cannot be read. -/
def prune : Nat → Datum → Datum
  | 0, .list _ | 0, .sequence _ | 0, .record _ => .unreadable
  | depth + 1, .list vs => .list (pruneItems depth vs)
  | depth + 1, .sequence vs => .sequence (pruneItems depth vs)
  | depth + 1, .record fs => .record (pruneFields depth fs)
  | _, d => d

def pruneItems (depth : Nat) : List Datum → List Datum
  | [] => []
  | v :: vs => v.prune depth :: pruneItems depth vs

def pruneFields (depth : Nat) : List (Datum × Datum) → List (Datum × Datum)
  | [] => []
  | (k, v) :: fs => (k.prune depth, v.prune depth) :: pruneFields depth fs

end

def items? : Datum → Option (List Datum)
  | .list vs | .sequence vs => some vs
  | .plain "" => some []
  | _ => none

def text? : Datum → Option String
  | .text s | .plain s => some s
  | _ => none

def index? : Datum → Option Nat
  | .number digits => (Decimal.natOf? 10 digits.toList).filter (· < Nat.pow 2 64)
  | _ => none

/-- The name that a key stands for. A number counts the given names; there is no field of the empty
name, for which a number stands that is too large. -/
def keyName? (names : List String) (key : Datum) : Option String :=
  match key.text? with
  | some name => some name
  | none => key.index?.map fun i => names.getD i ""

def namedFields? (names : List String) : List (Datum × Datum) → Option Fields
  | [] => some []
  | (k, v) :: fs =>
    match keyName? names k, namedFields? names fs with
    | some n, some gs => some ((n, v) :: gs)
    | _, _ => none

/-- The fields of a record with the given field names. Unknown fields may repeat, known ones may
not. -/
def recordFields? (names : List String) : Datum → Option Fields
  | .record fs => (namedFields? names fs).filter (Fields.distinct names)
  | _ => none

/-- The fields of a record, for which a list of their values may stand, and an empty scalar if there
are none. -/
def fields? (names : List String) : Datum → Option Fields
  | .list vs => if vs.length ≤ names.length then some (names.zip vs) else none
  | .plain "" => some []
  | d => d.recordFields? names

/-- One of several values, by its tag; the tag may also be the key of a record that holds null. -/
def oneOf? (all : List α) (tag : α → String) : Datum → Option α
  | .text s | .plain s | .record [(.text s, .null)] => all.find? (tag · == s)
  | _ => none

def texts? (d : Datum) : Option (List String) := d.items?.bind (·.mapM text?)

def isKey (name : String) (key : Datum) : Bool := key.text? == some name

/-- The tag of a tagged record and what is left of it. A list has its tag in front. -/
def tagged? (key : String) : Datum → Option (Datum × Datum)
  | .record fs =>
    match fs.filter (·.1.isKey key) with
    | [(_, tag)] => some (tag, .record (fs.filter (!·.1.isKey key)))
    | _ => none
  | .list (tag :: vs) | .sequence (tag :: vs) => some (tag, .list vs)
  | _ => none

abbrev Kinds := List (String × List String)

/-- The kind that a tag names or counts. -/
def Kinds.find? (ks : Kinds) (tag : Datum) : Option (String × List String) :=
  match tag.text? with
  | some name => List.find? (·.1 == name) ks
  | none => tag.index?.bind (ks[·]?)

/-- What may be left of a tagged record that has no fields: any record, or an empty list. -/
def noFields? : Datum → Option Fields
  | .record _ | .list [] => some []
  | _ => none

/-- The kind of a tagged record and its fields. -/
def variant? (key : String) (ks : Kinds) (d : Datum) : Option (String × Fields) :=
  match d.tagged? key with
  | none => none
  | some (tag, rest) =>
    match ks.find? tag with
    | none => none
    | some (kind, []) => rest.noFields?.map (kind, ·)
    | some (kind, names) => (rest.fields? names).map (kind, ·)

end Datum

end TripleSlash
