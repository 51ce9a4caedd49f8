import LicenseAudit.Audit.Outcome
import LicenseAudit.Path.Relative
import LicenseAudit.Report.Json

/-!
# Reports

The summary of one run: what was missing, what was fixed, what failed, and the state of the
notice document.

* `RunReport` — what is recorded. Paths are recorded as they are shown, relative to the root;
* `RunReport.recordCheck` and its kin — add an outcome to a report;
* `RunReport.isSuccess` — whether the run found nothing to complain about. A repair may leave
  recorded files without header; a check may not;
* `RunReport.toJson` — the report as JSON.
-/

namespace LicenseAudit

/-- Which command a report is about. -/
inductive RunMode where
  | lint
  | fix
deriving DecidableEq

/-- The name of a command. -/
def RunMode.text : RunMode → String
  | lint => "lint"
  | fix => "fix"

/-- The state of the notice document after a run. -/
inductive NoticeStatus where
  /-- It ends with the right year. -/
  | current
  /-- It was made to end with the right year. -/
  | fixed
  /-- It is out of date or could not be read or written. -/
  | failed
deriving DecidableEq

/-- The word for a state of the notice document. -/
def NoticeStatus.text : NoticeStatus → String
  | current => "ok"
  | fixed => "fixed"
  | failed => "failed"

/-- A failure of one file. -/
structure FailureEntry where
  path : String
  error : String
deriving DecidableEq

/-- The state of the notice document, with the reason of a failure. -/
structure NoticeEntry where
  status : NoticeStatus
  detail? : Option String
deriving DecidableEq

/-- The summary of one run. -/
structure RunReport where
  mode : RunMode
  generatedAt : String
  missing : List String
  fixed : List String
  failures : List FailureEntry
  notice? : Option NoticeEntry
  elapsedMilliseconds : Nat
deriving DecidableEq

namespace RunReport

/-- The report of a run that has not done anything yet. -/
def start (mode : RunMode) (generatedAt : String) : RunReport where
  mode := mode
  generatedAt := generatedAt
  missing := []
  fixed := []
  failures := []
  notice? := none
  elapsedMilliseconds := 0

/-! ## Recording -/

/-- Adds a failure. -/
def recordFailure (r : RunReport) (path root : Path) (error : String) : RunReport :=
  { r with failures := r.failures ++ [⟨path.shownFrom root, error⟩] }

/-- Adds failures in order. -/
def recordFailures (r : RunReport) (failures : List FileError) (root : Path) : RunReport :=
  failures.foldl (fun r e => r.recordFailure e.path root e.message) r

/-- Adds the missing files and the failures of a check. -/
def recordCheck (r : RunReport) (outcome : CheckOutcome) (root : Path) : RunReport :=
  recordFailures { r with missing := r.missing ++ outcome.missing.map fun p => p.shownFrom root }
    outcome.failures root

/-- Adds the fixed files and the failures of a repair. -/
def recordFixAll (r : RunReport) (outcome : FixAllOutcome) (root : Path) : RunReport :=
  recordFailures { r with fixed := r.fixed ++ outcome.fixed.map fun p => p.shownFrom root }
    outcome.failures root

/-- Adds a fixed file. -/
def recordFixed (r : RunReport) (path root : Path) : RunReport :=
  { r with fixed := r.fixed ++ [path.shownFrom root] }

/-- Sets the state of the notice document. -/
def recordNotice (r : RunReport) (status : NoticeStatus) (detail? : Option String) : RunReport :=
  { r with notice? := some ⟨status, detail?⟩ }

/-- Sets how long the run took. -/
def finish (r : RunReport) (microseconds : Nat) : RunReport :=
  { r with elapsedMilliseconds := microseconds / 1000 }

/-! ## Reading off -/

/-- Whether the notice document is in order, as far as the report knows. -/
def noticeIsFine (r : RunReport) : Bool :=
  match r.notice? with
  | some entry => entry.status != .failed
  | none => true

/-- Whether the run found nothing to complain about. -/
def isSuccess (r : RunReport) : Bool :=
  r.noticeIsFine && r.failures.isEmpty && (r.mode == .fix || r.missing.isEmpty)

/-- The state of the notice document as JSON. -/
def noticeJson : Option NoticeEntry → Json
  | none => .null
  | some entry =>
    .object (("status", .string entry.status.text) ::
      entry.detail?.toList.map fun detail => ("detail", .string detail))

/-- The report as JSON. -/
def toJson (r : RunReport) : Json :=
  .object
    [ ("mode", .string r.mode.text),
      ("generated_at", .string r.generatedAt),
      ("missing", .array (r.missing.map .string)),
      ("fixed", .array (r.fixed.map .string)),
      ("failures", .array (r.failures.map fun e =>
        .object [("path", .string e.path), ("error", .string e.error)])),
      ("notice", noticeJson r.notice?),
      ("elapsed_ms", .number r.elapsedMilliseconds) ]

end RunReport

end LicenseAudit
