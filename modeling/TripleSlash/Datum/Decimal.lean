namespace TripleSlash

structure Decimal where
  mantissa : Nat
  exponent : Int
  deriving DecidableEq, Repr

namespace Decimal

def digitValue? (base : Nat) (c : Char) : Option Nat :=
  let v :=
    if c.isDigit then some (c.toNat - '0'.toNat)
    else if 'a' ≤ c ∧ c ≤ 'f' then some (c.toNat - 'a'.toNat + 10)
    else if 'A' ≤ c ∧ c ≤ 'F' then some (c.toNat - 'A'.toNat + 10)
    else none
  v.filter (· < base)

/-- The natural number that digits of a base write; there is at least one. -/
def natOf? (base : Nat) : List Char → Option Nat
  | [] => none
  | cs => cs.foldlM (fun n c => (digitValue? base c).map (n * base + ·)) 0

def intOf? : List Char → Option Int
  | '-' :: cs => (natOf? 10 cs).map fun n => -(n : Int)
  | '+' :: cs | cs => (natOf? 10 cs).map fun n => (n : Int)

/-- Digits with at most one point among them. -/
def ofDigits? (cs : List Char) : Option Decimal :=
  let whole := cs.takeWhile Char.isDigit
  match cs.dropWhile Char.isDigit with
  | [] => (natOf? 10 whole).map (⟨·, 0⟩)
  | '.' :: places => (natOf? 10 (whole ++ places)).map (⟨·, -places.length⟩)
  | _ => none

def isExponentMark (c : Char) : Bool := c == 'e' || c == 'E'

/-- Digits, a point among them or not, and an exponent if there is one. -/
def ofUnsigned? (cs : List Char) : Option Decimal :=
  (ofDigits? (cs.takeWhile (!isExponentMark ·))).bind fun d =>
    match cs.dropWhile (!isExponentMark ·) with
    | [] => some d
    | _ :: exponent => (intOf? exponent).map fun e => ⟨d.mantissa, d.exponent + e⟩

/-- The size of a decimal number with an optional sign. -/
def magnitude? : List Char → Option Decimal
  | '-' :: cs | '+' :: cs | cs => ofUnsigned? cs

/-- Whether the number is below every double that rounds to infinity. -/
def isFinite (d : Decimal) : Bool :=
  let limit := Nat.pow 2 1024 - Nat.pow 2 970
  let top := (Nat.toDigits 10 d.mantissa).length + d.exponent
  d.mantissa == 0 || top ≤ 308 ||
    (top ≤ 309 &&
      (if 0 ≤ d.exponent then d.mantissa * Nat.pow 10 d.exponent.toNat < limit
      else d.mantissa < limit * Nat.pow 10 (-d.exponent).toNat))

end Decimal

end TripleSlash
