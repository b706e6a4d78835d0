/-
Sets of characters given as runs of code points.

A run is an arithmetic progression, so that scripts whose capitals and small
letters alternate take one entry. `CodePoints.has` decides membership.
-/

namespace Reflectory.Text

/-- The code points `first`, `first + step`, … up to `last`. -/
structure Run where
  first : Nat
  last : Nat
  step : Nat
  deriving DecidableEq, Repr

/-- Whether a code point belongs to the run. -/
def Run.has (r : Run) (n : Nat) : Bool :=
  r.first ≤ n && n ≤ r.last && (n - r.first) % r.step == 0

/-- A set of code points as a list of runs. -/
abbrev CodePoints := List Run

/-- Whether a character belongs to the set. -/
def CodePoints.has (rs : CodePoints) (c : Char) : Bool :=
  rs.any fun r => r.has c.toNat

end Reflectory.Text
