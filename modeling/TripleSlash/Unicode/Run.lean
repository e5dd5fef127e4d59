namespace TripleSlash.Unicode

/-- Every `step`-th code point from `first` to `last`. -/
structure Run where
  first : Nat
  last : Nat
  step : Nat

def Run.contains (r : Run) (n : Nat) : Bool :=
  r.first ≤ n && n ≤ r.last && (n - r.first) % r.step == 0

/-- A run whose code points all move by the same distance under a case mapping. -/
structure Shift where
  run : Run
  distance : Int

def Shift.apply (s : Shift) (n : Nat) : Nat := (n + s.distance).toNat

/-- Looks a character beyond ASCII up in a table of runs. -/
def inRuns (runs : List Run) (c : Char) : Bool := runs.any (·.contains c.toNat)

end TripleSlash.Unicode
