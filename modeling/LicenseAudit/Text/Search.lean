/-!
# Contiguous occurrences

A marker is looked for as a contiguous part of a text or of a byte string. The search is
written once, over lists of any letters with decidable equality.

* `occursIn needle hay` — the decision procedure;
* `occursIn_iff` — it decides `needle <:+: hay`.
-/

namespace LicenseAudit.Text

variable {α : Type} [DecidableEq α]

/-- Whether `needle` stands somewhere in the list as a contiguous part. The empty list
stands in every list. -/
def occursIn (needle : List α) : List α → Bool
  | [] => needle.isEmpty
  | c :: rest => needle.isPrefixOf (c :: rest) || occursIn needle rest

theorem occursIn_iff {needle hay : List α} : occursIn needle hay = true ↔ needle <:+: hay := by
  induction hay with
  | nil => simp [occursIn, List.isEmpty_iff]
  | cons c rest ih =>
    simp only [occursIn, Bool.or_eq_true, List.isPrefixOf_iff_prefix, ih, List.infix_cons_iff]

/-- Whether the text `needle` stands in the text `hay`. -/
def containsText (hay needle : String) : Bool :=
  occursIn needle.toList hay.toList

end LicenseAudit.Text
