import LicenseAudit.Text.CaseFold
import LicenseAudit.Text.Property.Binary
import LicenseAudit.Text.Property.Category
import LicenseAudit.Text.Blank

/-!
# Character sets

What one position of a pattern may hold. A set is an expression over runs of code points, and
its meaning is the membership test `CharSet.contains`.

* `CharSet` — runs, the operations on sets, and closure under case;
* `CharSet.digit`, `CharSet.blank`, `CharSet.word` — the sets that have a letter of their own
  in patterns.
-/

namespace LicenseAudit

/-- A set of characters. -/
inductive CharSet where
  | codes (s : Text.CodeSet)
  | union (a b : CharSet)
  | inter (a b : CharSet)
  | diff (a b : CharSet)
  | negate (a : CharSet)
  /-- All characters that differ from one in the set by case only. -/
  | caseless (a : CharSet)
  /-- As `caseless`, for the letters of ASCII only. -/
  | asciiCaseless (a : CharSet)

namespace CharSet

/-- The other case of an ASCII letter. -/
def swapAsciiCase (n : Nat) : Nat :=
  if 0x41 ≤ n && n ≤ 0x5A then n + 0x20
  else if 0x61 ≤ n && n ≤ 0x7A then n - 0x20
  else n

/-- Whether the set holds the code point. -/
def contains : CharSet → Nat → Bool
  | codes s, n => s.contains n
  | union a b, n => a.contains n || b.contains n
  | inter a b, n => a.contains n && b.contains n
  | diff a b, n => a.contains n && !b.contains n
  | negate a, n => !a.contains n
  | caseless a, n => (Text.caseVariants n).any a.contains || a.contains n
  | asciiCaseless a, n => a.contains n || a.contains (swapAsciiCase n)

/-- The characters in exactly one of two sets. -/
def symDiff (a b : CharSet) : CharSet := union (diff a b) (diff b a)

/-- The empty set. -/
def none : CharSet := codes []

/-- The characters from one code point to another. -/
def range (first last : Nat) : CharSet := codes [⟨first, last, 1⟩]

/-- The set of one character. -/
def single (c : Char) : CharSet := range c.toNat c.toNat

/-- The characters of a list. -/
def ofChars (cs : List Char) : CharSet := codes (cs.map fun c => ⟨c.toNat, c.toNat, 1⟩)

@[simp]
theorem contains_single (c d : Char) : (single c).contains d.toNat = (d == c) := by
  rw [Bool.eq_iff_iff]
  simp only [single, range, contains, Text.CodeSet.contains, Text.CodeRun.contains,
    List.any_cons, List.any_nil, Bool.or_false, Nat.mod_one, beq_self_eq_true, Bool.and_true,
    Bool.and_eq_true, decide_eq_true_eq, beq_iff_eq]
  constructor
  · rintro ⟨h₁, h₂⟩
    exact Char.toNat_inj.1 (by omega)
  · rintro rfl
    exact ⟨Nat.le_refl _, Nat.le_refl _⟩

/-- The union of several tables. -/
def ofTables (tables : List Text.CodeSet) : CharSet := codes tables.flatten

/-- The property Alphabetic. -/
def alphabetic : CharSet := ofTables
  [Text.categoryLu, Text.categoryLl, Text.categoryLt, Text.categoryLm, Text.categoryLo,
    Text.categoryNl, Text.otherAlphabetic]

/-- Decimal digits of any script. -/
def digit : CharSet := codes Text.categoryNd

/-- White space. -/
def blank : CharSet := codes (Text.blankRanges.map fun r => ⟨r.1, r.2, 1⟩)

/-- The characters of words: alphabetic ones, marks, digits, connectors and joiners. -/
def word : CharSet := union alphabetic (ofTables
  [Text.categoryMn, Text.categoryMc, Text.categoryMe, Text.categoryNd, Text.categoryPc,
    Text.joinControl])

/-- The digits of ASCII. -/
def asciiDigit : CharSet := range 0x30 0x39

/-- The white space of ASCII. -/
def asciiBlank : CharSet := ofChars ['\t', '\n', '\x0B', '\x0C', '\r', ' ']

/-- The letters of ASCII. -/
def asciiLetter : CharSet := union (range 0x41 0x5A) (range 0x61 0x7A)

/-- The word characters of ASCII. -/
def asciiWord : CharSet := union (union asciiLetter asciiDigit) (single '_')

end CharSet

end LicenseAudit
