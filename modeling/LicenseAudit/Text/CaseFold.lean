import LicenseAudit.Text.CaseFold.Runs

/-!
# Case folding

Two characters are the same regardless of case when their simple case foldings agree.
`caseVariants c` lists every character that is the same as `c` in that sense, `c` included.
-/

namespace LicenseAudit.Text

/-- The simple case folding of a code point. -/
def foldCode (n : Nat) : Nat :=
  (foldRuns.findSome? (·.image? n)).getD n

/-- The code points with the same folding as the given one: the folding itself and all that
fold to it. -/
def caseVariants (n : Nat) : List Nat :=
  foldCode n :: foldRuns.filterMap (·.preimage? (foldCode n))

end LicenseAudit.Text
