import LicenseAudit.Program.Basic

/-!
# Replacing a file

A file is never changed in place. Its new content goes to a temporary file beside it, which
takes over the permission bits and is then moved over the old file, so that a reader sees the
whole old content or the whole new one.

* `Path.temporarySibling` — the name beside a file that the new content is written to first;
* `Program.replace` — the four calls, and the removal of the temporary file if one of them is
  refused.
-/

namespace LicenseAudit

/-- The name beside a path that new content is written to first. The tag tells apart the runs
that work on one tree at the same time. -/
def Path.temporarySibling (p : Path) (tag : Nat) : Path :=
  p.withFileName ("." ++ p.fileName?.getD "" ++ ".asflint-" ++ toString tag ++ ".tmp")

namespace Program

/-- Writes the temporary file, gives it the permission bits and moves it into place. -/
def installTemporary (temporary p : Path) (mode? : Option Nat) (content : Bytes) :
    Program (Except IoError Unit) := do
  match ← write temporary content with
  | .error e => return .error e
  | .ok () =>
    match mode? with
    | none => rename temporary p
    | some mode =>
      match ← setMode temporary mode with
      | .error e => return .error e
      | .ok () => rename temporary p

/-- Installs the content and, if that is refused, removes what is left of the attempt. -/
def replaceVia (temporary p : Path) (mode? : Option Nat) (content : Bytes) :
    Program (Except IoError Unit) := do
  match ← installTemporary temporary p mode? content with
  | .ok () => return .ok ()
  | .error e =>
    let _ ← remove temporary
    return .error e

/-- Replaces the content of a file and keeps its permission bits. A file that does not exist
is created with the usual ones. -/
def replace (tag : Nat) (p : Path) (content : Bytes) : Program (Except IoError Unit) := do
  match ← status p with
  | .ok s => replaceVia (p.temporarySibling tag) p (some s.mode) content
  | .error e =>
    if e = .noEntry then replaceVia (p.temporarySibling tag) p none content
    else return .error e

end Program

end LicenseAudit
