import LicenseAudit.Audit.Outcome
import LicenseAudit.Header.Insert
import LicenseAudit.Header.Registry
import LicenseAudit.Pool.Basic
import LicenseAudit.Program.Replace

/-!
# Auditing and repairing a tree

* `Engine.eligible` — the files of a tree that must carry a header;
* `Engine.check` — which of them lack the marker;
* `Engine.fixFile` — adds the header to one file that lacks it;
* `Engine.fixAll` — checks a tree and fixes every file that lacks the marker.

`check` and `fixAll` work with a pool. A schedule fixes the order in which its workers take
their steps.
-/

namespace LicenseAudit

/-- What an audit looks for and where: the headers, the marker that tells whether a file carries
one, the number of workers, the names that are left out, and the tag of its temporary files. -/
structure Engine where
  headers : HeaderSource
  marker : String
  jobs : Nat
  exclusions : Exclusions
  tag : Nat

namespace Engine

/-- The selection of the files that must carry a header: directories that are left out are not
entered; a file must not be left out by name, must not be a symbolic link, and must be of a
kind that takes a header. -/
def selection (e : Engine) : Selection where
  directories := [.unnamed e.exclusions.directories]
  files := [.unnamed e.exclusions.files, .noLink, .only e.headers.supports]

/-- The files of a tree that must carry a header. -/
def eligible (e : Engine) (root : Path) : Program (Except WalkError (List Path)) :=
  walk root e.selection

/-! ## Checking -/

/-- Whether one file carries the marker, with the path it was asked of. -/
def inspect (e : Engine) (p : Path) : Program (Path × Except FileError Bool) := do
  match ← Program.read p with
  | .ok content => return (p, .ok (carries content e.marker))
  | .error cause => return (p, .error (.read p cause))

/-- Sorts the answers of a check into an outcome, in whatever order they come. -/
def collectCheck (answers : List (Path × Except FileError Bool)) : CheckOutcome where
  missing := Path.sortedSet (answers.filterMap fun (p, answer) =>
    match answer with
    | .ok false => some p
    | _ => none)
  failures := FileError.sorted (answers.filterMap fun (_, answer) =>
    match answer with
    | .error e => some e
    | _ => none)

/-- Finds the files of a tree that lack the marker. -/
def check (e : Engine) (root : Path) (schedule : List Pool.Event := []) :
    Program (Except AuditError CheckOutcome) := do
  match ← e.eligible root with
  | .error failure => return .error (.walk failure)
  | .ok files =>
    match ← Pool.run schedule e.jobs files fun p => some <$> e.inspect p with
    | .results answers => return .ok (collectCheck answers)
    | .panicked | .stalled => return .error .worker

/-! ## Fixing -/

/-- Adds the header to a file that lacks the marker. Nothing is read of a file that takes no
header, and nothing is written to one that carries the marker. -/
def fixFile (e : Engine) (p : Path) : Program (Except FileError FixOutcome) := do
  if !e.headers.supports p then return .ok .unsupported
  match e.headers.headerFor? p with
  | none => return .ok .unsupported
  | some header =>
    match ← Program.read p with
    | .error cause => return .error (.read p cause)
    | .ok content =>
      if carries content e.marker then return .ok .alreadyCompliant
      match ← Program.replace e.tag p (insertHeader content (Text.encode header.toList)) with
      | .error cause => return .error (.write p cause)
      | .ok () => return .ok .added

/-- Fixes a file, with the path it was asked of. -/
def repair (e : Engine) (p : Path) : Program (Path × Except FileError FixOutcome) := do
  return (p, ← e.fixFile p)

/-- Sorts the answers of a repair into an outcome, after the failures of the check. -/
def collectFixes (failures : List FileError)
    (answers : List (Path × Except FileError FixOutcome)) : FixAllOutcome where
  fixed := Path.sortedSet (answers.filterMap fun (p, answer) =>
    match answer with
    | .ok .added => some p
    | _ => none)
  failures := FileError.sorted (failures ++ answers.filterMap fun (_, answer) =>
    match answer with
    | .error e => some e
    | _ => none)

/-- Checks a tree and fixes every file that lacks the marker, also when others fail. -/
def fixAll (e : Engine) (root : Path) (checkSchedule fixSchedule : List Pool.Event := []) :
    Program (Except AuditError FixAllOutcome) := do
  match ← e.check root checkSchedule with
  | .error failure => return .error failure
  | .ok checked =>
    match ← Pool.run fixSchedule e.jobs checked.missing fun p => some <$> e.repair p with
    | .results answers => return .ok (collectFixes checked.failures answers)
    | .panicked | .stalled => return .error .worker

end Engine

end LicenseAudit
