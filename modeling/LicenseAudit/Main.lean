import Std.Time.Format
import LicenseAudit.CommandLine.Run

/-!
# The program

The command line on a real disk: every call of a run is made with the operating system, and the
lines of the run are printed when it is over. Nothing is decided here.

Permission bits cannot be asked for through the calls that are available. A status reports the
usual ones, setting them does nothing, and a regular file that is replaced takes the new content
over in place, so that it keeps its own bits.
-/

namespace LicenseAudit.Disk

/-- The number of a failed call to the operating system. Some calls give it with a minus sign. -/
def codeOf? : IO.Error → Option Nat
  | .alreadyExists _ code _ | .otherError code _ | .resourceBusy code _
  | .resourceVanished code _ | .unsupportedOperation code _ | .hardwareFault code _
  | .unsatisfiedConstraints code _ | .illegalOperation code _ | .protocolError code _
  | .timeExpired code _ | .interrupted _ code _ | .noFileOrDirectory _ code _
  | .invalidArgument _ code _ | .permissionDenied _ code _ | .resourceExhausted _ code _
  | .inappropriateType _ code _ | .noSuchThing _ code _ =>
    some (if code.toNat < Nat.pow 2 31 then code.toNat else Nat.pow 2 32 - code.toNat)
  | .unexpectedEof | .userError _ => none

/-- The failure of a call. -/
def failureOf (e : IO.Error) : IoError :=
  match codeOf? e with
  | some code => .system code
  | none => .other (toString e)

/-- Makes a call that may fail. -/
def attempt {α : Type} (act : IO α) : IO (Except IoError α) :=
  try
    return .ok (← act)
  catch e => return .error (failureOf e)

/-- The kind of an entry. Devices and the like count as files. -/
def kindOf (m : IO.FS.Metadata) : EntryKind :=
  match m.type with
  | .dir => .directory
  | .symlink => .link
  | _ => .file

/-- The status of an entry. -/
def statusOf (m : IO.FS.Metadata) : Status :=
  ⟨kindOf m, if kindOf m = .directory then FileSystem.directoryMode else FileSystem.fileMode⟩

/-- The entries of a directory, ordered by name. -/
def entriesOf (p : Path) : IO (List (String × EntryKind)) := do
  let entries ← (System.mkFilePath [p.text]).readDir
  let entries ← entries.toList.mapM fun e => do
    return (e.fileName, kindOf (← e.path.symlinkMetadata))
  return entries.mergeSort fun a b => a.1 ≤ b.1

/-- Whether a regular file itself stands at a path. -/
def isRegularFile (p : Path) : IO Bool := do
  match ← attempt (System.mkFilePath [p.text]).symlinkMetadata with
  | .ok m => return kindOf m = .file
  | .error _ => return false

/-- Moves a file to a path. A regular file that stands there takes over the content. -/
def move (source target : Path) : IO Unit := do
  if ← isRegularFile target then
    IO.FS.writeBinFile target.text (← IO.FS.readBinFile source.text)
    IO.FS.removeFile source.text
  else IO.FS.rename source.text target.text

/-- Makes one call of a run that began at the given time. -/
def perform (start : Nat) : (c : Call) → IO c.Reply
  | .read p => attempt do return (← IO.FS.readBinFile p.text).toList
  | .status p => attempt do return statusOf (← (System.mkFilePath [p.text]).metadata)
  | .linkStatus p => attempt do return statusOf (← (System.mkFilePath [p.text]).symlinkMetadata)
  | .list p => attempt (entriesOf p)
  | .canonical p => attempt do return ⟨(← IO.FS.realPath p.text).toString⟩
  | .write p content => attempt (IO.FS.writeBinFile p.text content.toByteArray)
  | .setMode _ _ => return .ok ()
  | .rename source target => attempt (move source target)
  | .remove p => attempt (IO.FS.removeFile p.text)
  | .elapsed => return ((← IO.monoNanosNow) - start) / 1000

/-- Runs a program on the disk. -/
def run {α : Type} (start : Nat) : Program α → IO α
  | .done a => return a
  | .call c next => do run start (next (← perform start c))

/-- What this run is told besides its command line. Its workers take turns, so there is one
processor to use. -/
def surroundings (start : Nat) : IO Surroundings := do
  let now ← Std.Time.PlainDateTime.now
  return {
    configVariable? := (← IO.getEnv "ASFLINT_CONFIG").map Path.mk
    currentYear := now.year.toInt
    generatedAt := now.format "uuuu-MM-dd HH:mm:ss"
    processors := 1
    tag := start % 1000000
    outIsTerminal := ← (← IO.getStdout).isTty
    errIsTerminal := ← (← IO.getStderr).isTty }

/-- Prints a line. -/
def print : Line → IO Unit
  | .out text => IO.println text
  | .err text => IO.eprintln text

end LicenseAudit.Disk

open LicenseAudit in
/-- Runs the command line and ends with its exit status. -/
def main (words : List String) : IO UInt32 := do
  let start ← IO.monoNanosNow
  let (lines, status) ← Disk.run start (runWords words (← Disk.surroundings start))
  lines.forM Disk.print
  return status.toUInt32
