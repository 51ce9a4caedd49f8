import LicenseAudit.Selection.Walk

/-!
# Outcomes of an audit

What an audit of a tree finds and what a repair of it does, and the failures of both. A failure
that concerns one file is part of the outcome; only a failure that concerns the whole tree is
an error of the audit.
-/

namespace LicenseAudit

/-- A failure that is confined to one file. -/
inductive FileError where
  | read (path : Path) (cause : IoError)
  | write (path : Path) (cause : IoError)
deriving DecidableEq

namespace FileError

/-- The file that failed. -/
def path : FileError → Path
  | read p _ => p
  | write p _ => p

/-- The text shown for the failure. -/
def message : FileError → String
  | read p cause => "Failed to read " ++ p.text ++ ": " ++ cause.message
  | write p cause => "Failed to write " ++ p.text ++ ": " ++ cause.message

end FileError

/-- A failure of a whole audit. -/
inductive AuditError where
  | walk (e : WalkError)
  /-- A worker broke down or the workers came to a standstill. -/
  | worker
deriving DecidableEq

/-- The text shown for a failed audit. -/
def AuditError.message : AuditError → String
  | walk e => e.message
  | worker => "Worker task failed"

/-- The result of a check: the eligible files without the marker and the files that could not
be read, each in the order of paths. -/
structure CheckOutcome where
  missing : List Path
  failures : List FileError
deriving DecidableEq

namespace CheckOutcome

/-- Whether every file could be read and carries the marker. -/
def isClean (o : CheckOutcome) : Bool := o.missing.isEmpty && o.failures.isEmpty

end CheckOutcome

/-- What became of one file. -/
inductive FixOutcome where
  /-- No header applies to the file. -/
  | unsupported
  /-- The file carries the marker already. -/
  | alreadyCompliant
  /-- The header was added. -/
  | added
deriving DecidableEq

/-- The result of a repair: the files that received a header and the files that could not be
read or written, each in the order of paths. -/
structure FixAllOutcome where
  fixed : List Path
  failures : List FileError
deriving DecidableEq

namespace FixAllOutcome

/-- Whether no file failed. -/
def isSuccess (o : FixAllOutcome) : Bool := o.failures.isEmpty

end FixAllOutcome

/-- Failures in the order of their paths; failures of one path keep their order. -/
def FileError.sorted (es : List FileError) : List FileError :=
  es.mergeSort fun a b => !decide (b.path.key < a.path.key)

end LicenseAudit
