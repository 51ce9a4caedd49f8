import LicenseAudit.Program.Basic
import LicenseAudit.Selection.NamePatterns

/-!
# Filters

A filter accepts or rejects paths, and says why it rejects.

* `Rule` — one condition on a path;
* `Filter` — conditions in order: the first that rejects gives the reason, and a filter
  without conditions accepts everything (`Filter.check_append`);
* `Selection` — the two filters of a traversal, for directories and for files.
-/

namespace LicenseAudit

/-- The answer of a filter. -/
inductive Verdict where
  | accepted
  | rejected (reason : String)
deriving DecidableEq

namespace Verdict

/-- Whether the path was accepted. -/
def isAccepted : Verdict → Bool
  | accepted => true
  | rejected _ => false

/-- The reason of a rejection. -/
def reason? : Verdict → Option String
  | accepted => none
  | rejected reason => some reason

end Verdict

/-- One condition on a path. -/
inductive Rule where
  /-- The name must match none of the patterns. -/
  | unnamed (ps : NamePatterns)
  /-- No symbolic link may stand at the path. -/
  | noLink
  /-- The path must satisfy a predicate. -/
  | only (holds : Path → Bool)

/-- What a condition says of a path. -/
def Rule.check : Rule → Path → Program Verdict
  | unnamed ps, p =>
    return if ps.matchesPath p then .rejected ("Matches " ++ ps.label ++ " pattern") else .accepted
  | noLink, p => do
    match ← Program.linkStatus p with
    | .ok s => return if s.kind = .link then .rejected "Symlink" else .accepted
    | .error _ => return .accepted
  | only holds, p => return if holds p then .accepted else .rejected "Rejected by predicate"

/-- Conditions that are checked in order. -/
abbrev Filter := List Rule

namespace Filter

/-- What a filter says of a path: the first rejection, if there is one. -/
def check : Filter → Path → Program Verdict
  | [], _ => return .accepted
  | rule :: rest, p => do
    match ← rule.check p with
    | .accepted => check rest p
    | .rejected reason => return .rejected reason

/-- Whether a filter accepts a path. -/
def accepts (f : Filter) (p : Path) : Program Bool := do
  return (← f.check p).isAccepted

theorem check_append (f g : Filter) (p : Path) :
    check (f ++ g) p = do
      match ← check f p with
      | .accepted => check g p
      | .rejected reason => return .rejected reason := by
  induction f with
  | nil => simp [check]
  | cons rule rest ih =>
    simp only [List.cons_append, check, bind_assoc, ih]
    congr 1
    funext v
    cases v <;> simp

end Filter

/-- The filters of a traversal: `directories` decides which directories are entered, and
`files` which of the other entries are reported. -/
structure Selection where
  directories : Filter
  files : Filter

namespace Selection

/-- The selection that accepts everything. -/
def everything : Selection := ⟨[], []⟩

/-- Whether the traversal enters a directory. -/
def descends (s : Selection) (p : Path) : Program Bool := s.directories.accepts p

/-- Whether the traversal reports a file. -/
def includes (s : Selection) (p : Path) : Program Bool := s.files.accepts p

end Selection

end LicenseAudit
