/-!
# Sets of code points

Tables of the Unicode standard list code points as runs. Most runs are whole blocks; where
upper and lower case alternate, a run takes every other code point.
-/

namespace LicenseAudit.Text

/-- The code points `first`, `first + step`, … up to `last`. -/
structure CodeRun where
  first : Nat
  last : Nat
  step : Nat

/-- A set of code points, given by runs. -/
abbrev CodeSet := List CodeRun

/-- Whether the run holds the code point. -/
def CodeRun.contains (r : CodeRun) (n : Nat) : Bool :=
  r.first ≤ n && n ≤ r.last && (n - r.first) % r.step == 0

/-- Whether the set holds the code point. -/
def CodeSet.contains (s : CodeSet) (n : Nat) : Bool :=
  s.any fun r => r.contains n

end LicenseAudit.Text
