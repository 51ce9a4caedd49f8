import LicenseAudit.FileSystem.Basic

/-!
# Resolving a path

From a path to the place that it denotes. Directories are entered one name at a time and
symbolic links are followed on the way; whether a link at the very end is followed depends on
what is done with the place.

* `FileSystem.locate` — the place of a path. All but the last name must exist; the last one
  may be vacant;
* `FileSystem.locateParent` — the directory of a path and what its last component is.

Limits: 255 bytes for a name, 4095 for a whole path, 40 links on one way.
-/

namespace LicenseAudit

/-- The longest name, in bytes. -/
def nameLimit : Nat := 255

/-- A path of this many bytes or more is refused. -/
def pathLimit : Nat := 4096

/-- How many symbolic links are followed on one way. -/
def linkLimit : Nat := 40

namespace Path

/-- The names of a path, `.` and `..` included, without empty ones. -/
def steps (p : Path) : List String :=
  ((Text.pieces '/' p.text.toList).filter (· ≠ [])).map String.ofList

/-- Whether the path ends with a separator, and so asks for a directory. -/
def endsWithSeparator (p : Path) : Bool :=
  p.text.toList.getLast? == some '/'

/-- The names of a path, with a last `.` where a separator at the end asks for a directory. -/
def fullSteps (p : Path) : List String :=
  p.steps ++ if p.endsWithSeparator then ["."] else []

end Path

namespace FileSystem

/-- The place from which a path starts. -/
def start (fs : FileSystem) (p : Path) : Location :=
  if p.isAbsolute then [] else fs.workingDirectory

/-- Goes along the names, starting at `here`. A link that is to be followed is handed to
`onLink`: the directory of the link, its target and the names that come after it. -/
def walkSteps (fs : FileSystem) (followLast : Bool)
    (onLink : Location → Path → List String → Except IoError Location) (here : Location) :
    List String → Except IoError Location
  | [] => .ok here
  | name :: rest =>
    if !fs.isDirectory here then .error .notDirectory
    else if name = "." then walkSteps fs followLast onLink here rest
    else if name = ".." then walkSteps fs followLast onLink here.tail rest
    else if nameLimit < name.utf8ByteSize then .error .nameTooLong
    else match fs.lookup? (name :: here) with
      | none => if rest.isEmpty then .ok (name :: here) else .error .noEntry
      | some (.link target) =>
        if rest.isEmpty && !followLast then .ok (name :: here) else onLink here target rest
      | some _ => walkSteps fs followLast onLink (name :: here) rest

/-- Goes along the names and follows at most `links` symbolic links. -/
def walkWithin (fs : FileSystem) (followLast : Bool) :
    Nat → Location → List String → Except IoError Location
  | 0 => walkSteps fs followLast fun _ _ _ => .error .linkLoop
  | links + 1 => walkSteps fs followLast fun here target rest =>
      walkWithin fs followLast links (if target.isAbsolute then [] else here)
        (target.fullSteps ++ rest)

/-- Refuses the texts that no path may have. -/
def checkText (p : Path) : Except IoError Unit :=
  if p.text.toList.contains '\x00' then .error .zeroByte
  else if p.text.isEmpty then .error .noEntry
  else if pathLimit ≤ p.text.utf8ByteSize then .error .nameTooLong
  else .ok ()

/-- The place that a path denotes. -/
def locate (fs : FileSystem) (followLast : Bool) (p : Path) : Except IoError Location := do
  checkText p
  fs.walkWithin followLast linkLimit (fs.start p) p.fullSteps

/-- The entry that a path denotes, and its place. -/
def find (fs : FileSystem) (followLast : Bool) (p : Path) : Except IoError (Location × Entry) := do
  let l ← fs.locate followLast p
  match fs.lookup? l with
  | some e => .ok (l, e)
  | none => .error .noEntry

/-- The directory of a path and its last name; there is no such name when the path ends with
`.` or `..` or is the root. -/
def locateParent (fs : FileSystem) (p : Path) : Except IoError (Location × Option String) := do
  checkText p
  let dir ← fs.walkWithin true linkLimit (fs.start p) p.steps.dropLast
  if !fs.isDirectory dir then .error .notDirectory
  match p.steps.getLast? with
  | none => return (dir, none)
  | some name => return (dir, if name = "." || name = ".." then none else some name)

end FileSystem

end LicenseAudit
