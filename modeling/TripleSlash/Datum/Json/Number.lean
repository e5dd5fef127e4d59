import TripleSlash.Datum.Decimal

namespace TripleSlash.Json

/-- A number as it is written: the digits before the point, those behind it and the exponent. -/
structure Number where
  negative : Bool := false
  whole : List Char
  /-- The digits behind the point, if there is one. -/
  places : Option (List Char) := none
  /-- The exponent with its mark, if there is one. -/
  exponent : Option (Char × List Char) := none
  deriving Repr

namespace Number

def readDigits (cs : List Char) : Option (List Char × List Char) :=
  match cs.takeWhile Char.isDigit with
  | [] => none
  | ds => some (ds, cs.dropWhile Char.isDigit)

/-- Takes the whole part of a number: a lone zero, or digits that do not begin with one. -/
def readWhole : List Char → Option (List Char × List Char)
  | '0' :: cs => some (['0'], cs)
  | cs => readDigits cs

def readPlaces : List Char → Option (Option (List Char) × List Char)
  | '.' :: cs => (readDigits cs).map fun (ds, rest) => (some ds, rest)
  | cs => some (none, cs)

def readExponent : List Char → Option (Option (Char × List Char) × List Char)
  | e :: cs =>
    if Decimal.isExponentMark e then
      match cs with
      | '+' :: cs => (readDigits cs).map fun (ds, rest) => (some (e, '+' :: ds), rest)
      | '-' :: cs => (readDigits cs).map fun (ds, rest) => (some (e, '-' :: ds), rest)
      | cs => (readDigits cs).map fun (ds, rest) => (some (e, ds), rest)
    else some (none, e :: cs)
  | [] => some (none, [])

def readUnsigned (cs : List Char) : Option (Number × List Char) := do
  let (whole, cs) ← readWhole cs
  let (places, cs) ← readPlaces cs
  let (exponent, cs) ← readExponent cs
  return ({ whole, places, exponent }, cs)

def read : List Char → Option (Number × List Char)
  | '-' :: cs => (readUnsigned cs).map fun (n, rest) => ({ n with negative := true }, rest)
  | cs => readUnsigned cs

def toList (n : Number) : List Char :=
  (if n.negative then ['-'] else []) ++ n.whole ++
    (n.places.map ('.' :: ·)).getD [] ++ (n.exponent.map fun (e, ds) => e :: ds).getD []

/-- Adds digits to a number while 64 bits hold it. Leaves the others. -/
def gather (n : Nat) : List Char → Nat × List Char
  | [] => (n, [])
  | c :: cs =>
    let m := n * 10 + (c.toNat - '0'.toNat)
    if m < Nat.pow 2 64 then gather m cs else (n, c :: cs)

/-- The number that reading keeps: as many digits as 64 bits hold. Digits left before the point
count as zeros, and those left behind it not at all. -/
def kept (n : Number) : Decimal :=
  let places := n.places.getD []
  let (whole, zeros) := gather 0 n.whole
  let (mantissa, dropped) := gather whole places
  let exponent := (n.exponent.bind fun (_, ds) => Decimal.intOf? ds).getD 0
  ⟨mantissa, exponent + zeros.length - (places.length - dropped.length : Nat)⟩

/-- The nearest number of 53 bits and zeros behind them; of two that are as near, the even one. -/
def nearest (n : Nat) : Nat :=
  let unit := Nat.pow 2 (n.log2 - 52)
  let rest := n % unit
  let up := unit < 2 * rest || (unit == 2 * rest && n / unit % 2 == 1)
  (n / unit + if up then 1 else 0) * unit

/-- Whether a double can hold the number: the product of the mantissa and the power of ten, each
rounded first, is below all that round to infinity. -/
def isFinite (n : Number) : Bool :=
  let d := n.kept
  d.mantissa == 0 || d.exponent < 0 ||
    (d.exponent ≤ 308 &&
      nearest d.mantissa * nearest (Nat.pow 10 d.exponent.toNat) < Nat.pow 2 1024 - Nat.pow 2 970)

end Number

end TripleSlash.Json
