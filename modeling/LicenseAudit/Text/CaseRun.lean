/-!
# Runs of case mappings

The case mappings of the Unicode standard are mostly regular: a run of code points, each or
every other one of a block, moves by one distance. A table of runs is short and is searched
in order.
-/

namespace LicenseAudit.Text

/-- The code points `first`, `first + step`, … up to `last`, of which the first one maps to
`target` and the others move by the same distance. -/
structure CaseRun where
  first : Nat
  last : Nat
  step : Nat
  target : Nat

namespace CaseRun

/-- Where the run sends a code point, if the code point belongs to it. -/
def image? (r : CaseRun) (n : Nat) : Option Nat :=
  if r.first ≤ n && n ≤ r.last && (n - r.first) % r.step == 0
  then some (r.target + (n - r.first)) else none

/-- Which code point the run sends to the given one, if any. -/
def preimage? (r : CaseRun) (n : Nat) : Option Nat :=
  let source := r.first + (n - r.target)
  if r.target ≤ n && source ≤ r.last && (n - r.target) % r.step == 0
  then some source else none

/-- The code point found by `preimage?` is sent back. -/
theorem image?_of_preimage? {r : CaseRun} {n m : Nat} (h : r.preimage? n = some m) :
    r.image? m = some n := by
  simp only [preimage?] at h
  split at h
  case isFalse => simp at h
  case isTrue hc =>
    simp only [Bool.and_eq_true, decide_eq_true_eq, beq_iff_eq] at hc
    obtain ⟨⟨h₁, h₂⟩, h₃⟩ := hc
    injection h with h
    have hs : m - r.first = n - r.target := by omega
    simp only [image?, Bool.and_eq_true, decide_eq_true_eq, beq_iff_eq, hs]
    rw [if_pos ⟨⟨by omega, by omega⟩, h₃⟩]
    congr 1
    omega

end CaseRun

/-- Whether a code point lies in one of the inclusive ranges. -/
def inRanges (ranges : List (Nat × Nat)) (n : Nat) : Bool :=
  ranges.any fun r => r.1 ≤ n && n ≤ r.2

end LicenseAudit.Text
