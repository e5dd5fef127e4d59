import TripleSlash.Datum.Basic
import TripleSlash.Datum.Decimal

namespace TripleSlash

inductive Plain
  | null
  | bool (value : Bool)
  /-- An integer of 128 bits at most, whose sign counts also when it is zero. -/
  | integer (negative : Bool) (size : Nat)
  | float
  | text
  deriving DecidableEq, Repr

namespace Plain

def isNull (s : String) : Bool := ["", "null", "Null", "NULL", "~"].contains s

def bool? (s : String) : Option Bool :=
  if ["true", "True", "TRUE"].contains s then some true
  else if ["false", "False", "FALSE"].contains s then some false
  else none

/-- Digits that begin with a zero too many; they are no number. -/
def hasLeadingZero (cs : List Char) : Bool :=
  let digits := match cs with
    | '-' :: cs | '+' :: cs | cs => cs
  match digits with
  | '0' :: d :: ds => (d :: ds).all Char.isDigit
  | _ => false

/-- A number in a base that its first characters name. -/
def prefixed? : List Char → Option Nat
  | '0' :: 'x' :: cs => Decimal.natOf? 16 cs
  | '0' :: 'o' :: cs => Decimal.natOf? 8 cs
  | '0' :: 'b' :: cs => Decimal.natOf? 2 cs
  | _ => none

/-- A natural number in base ten, or in another that its first characters name. -/
def natural? (cs : List Char) : Option Nat :=
  prefixed? cs <|> if hasLeadingZero cs then none else Decimal.natOf? 10 cs

def integer? : List Char → Option (Bool × Nat)
  | '-' :: cs => (natural? cs).map (true, ·)
  | '+' :: cs | cs => (natural? cs).map (false, ·)

/-- Whether an integer is one of that many bits: signed if it is negative, else unsigned. -/
def fits (bits : Nat) (negative : Bool) (size : Nat) : Bool :=
  if negative then size ≤ Nat.pow 2 (bits - 1) else size < Nat.pow 2 bits

/-- Whether this is a finite number in decimal notation, an infinity or the value that is none. -/
def isFloat (s : String) : Bool :=
  [".inf", ".Inf", ".INF", "+.inf", "+.Inf", "+.INF", "-.inf", "-.Inf", "-.INF", ".nan", ".NaN",
    ".NAN"].contains s ||
    (!hasLeadingZero s.toList && (Decimal.magnitude? s.toList).any Decimal.isFinite)

def classify (s : String) : Plain :=
  if isNull s then null
  else
    match bool? s with
    | some b => bool b
    | none =>
      match (integer? s.toList).filter fun (negative, size) => fits 128 negative size with
      | some (negative, size) => integer negative size
      | none => if isFloat s then float else text

end Plain

namespace Datum

def isNull : Datum → Bool
  | .null => true
  | .plain s => Plain.isNull s
  | _ => false

def bool? : Datum → Option Bool
  | .bool b => some b
  | .plain s => Plain.bool? s
  | _ => none

def optional? (read : Datum → Option α) : Option Datum → Option (Option α)
  | none => some none
  | some d => if d.isNull then some none else (read d).map some

def orDefault? (default : α) (read : Datum → Option α) : Option Datum → Option α
  | none => some default
  | some d => read d

mutual

/-- The same data with the type of every unquoted scalar settled; `none` if something cannot be read
or there is a number that no 64 bits hold. -/
def settle : Datum → Option Datum
  | .plain s =>
    match Plain.classify s with
    | .null => some .null
    | .bool b => some (.bool b)
    | .integer negative size =>
      if Plain.fits 64 negative size then
        some (.number ((if negative then "-" else "") ++ toString size))
      else none
    | .float => some (.number s)
    | .text => some (.text s)
  | .list vs | .sequence vs => (settleItems vs).map .list
  | .record fs => (settleFields fs).map .record
  | .unreadable => none
  | d => some d

def settleItems : List Datum → Option (List Datum)
  | [] => some []
  | v :: vs => do return (← v.settle) :: (← settleItems vs)

def settleFields : List (Datum × Datum) → Option (List (Datum × Datum))
  | [] => some []
  | (k, v) :: fs => do return (← k.settle, ← v.settle) :: (← settleFields fs)

end

/-- Settles a tagged record, whose tag has to be a text, whatever it looks like. -/
def settleTagged? (key : String) (d : Datum) : Option Datum := do
  let (tag, rest) ← d.tagged? key
  let name ← tag.text?
  match ← rest.settle with
  | .record fs => some (.record ((.text key, .text name) :: fs))
  | .list vs => some (.list (.text name :: vs))
  | _ => none

end Datum

end TripleSlash
