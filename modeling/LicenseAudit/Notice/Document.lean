import LicenseAudit.Notice.YearRange
import LicenseAudit.Program.Replace

/-!
# The notice document

* `Notice.endYear` — the range that the document holds;
* `Notice.lint` — fails unless the range ends with the given year;
* `Notice.fix` — makes the range end with the given year and changes nothing else;
* `NoticeError` — why one of these failed.
-/

namespace LicenseAudit

/-- A notice document and the first year of its range. -/
structure Notice where
  path : Path
  startYear : Int

/-- Why an operation on a notice document failed. -/
inductive NoticeError where
  | read (path : Path) (cause : IoError)
  | write (path : Path) (cause : IoError)
  | noDateRange (path : Path) (startYear : Int)
  | yearMismatch (found expected : Int)
  | invalidYear (year : Int)
deriving DecidableEq

/-- The text shown for a failed operation on a notice document. -/
def NoticeError.message : NoticeError → String
  | read path cause => "Failed to read notice " ++ path.text ++ ": " ++ cause.message
  | write path cause => "Failed to write notice " ++ path.text ++ ": " ++ cause.message
  | noDateRange path startYear =>
    "No date range '" ++ toString startYear ++ "-YYYY' found in " ++ path.text
  | yearMismatch found expected =>
    "Notice year is out of date: " ++ toString found ++ " != " ++ toString expected
  | invalidYear year => "Invalid year " ++ toString year ++ ": expected a four digit year"

/-- The end year before and after a fix. -/
structure FixedYear where
  previous : Int
  current : Int
deriving DecidableEq

/-- Whether the fix changed the year. -/
def FixedYear.changed (f : FixedYear) : Bool := f.previous != f.current

namespace Notice

/-- Reads the document. -/
def readText (n : Notice) : Program (Except NoticeError String) := do
  match ← Program.readText n.path with
  | .ok text => return .ok text
  | .error e => return .error (.read n.path e)

/-- The range in a text of the document. -/
def rangeOf (n : Notice) (text : String) : Except NoticeError YearRange :=
  match YearRange.find? n.startYear text.toList with
  | some r => .ok r
  | none => .error (.noDateRange n.path n.startYear)

/-- The range that the document holds. -/
def endYear (n : Notice) : Program (Except NoticeError YearRange) := do
  match ← n.readText with
  | .ok text => return n.rangeOf text
  | .error e => return .error e

/-- Fails unless the range ends with the given year. -/
def lint (n : Notice) (year : Int) : Program (Except NoticeError Unit) := do
  match ← n.endYear with
  | .error e => return .error e
  | .ok r =>
    if (r.year : Int) = year then return .ok ()
    else return .error (.yearMismatch r.year year)

/-- Makes the range end with the given year. The document is written even when it does so
already. -/
def fix (tag : Nat) (n : Notice) (year : Int) : Program (Except NoticeError FixedYear) := do
  if !isFourDigitYear year then return .error (.invalidYear year)
  match ← n.endYear with
  | .error e => return .error e
  | .ok r =>
    match ← Program.replace tag n.path (Text.encode (r.setEnd year)) with
    | .error e => return .error (.write n.path e)
    | .ok () => return .ok ⟨r.year, year⟩

end Notice

end LicenseAudit
