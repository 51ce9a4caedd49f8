import LicenseAudit.FileSystem.Resolve

/-!
# File operations

What a process can do with a file system. Each operation either answers and leaves the file
system in its new state, or is refused and leaves it as it was.
-/

namespace LicenseAudit

/-- What kind of entry stands at a place. -/
inductive EntryKind where
  | file
  | directory
  | link
deriving DecidableEq

/-- What is known of an entry without reading it. -/
structure Status where
  kind : EntryKind
  mode : Nat
deriving DecidableEq

/-- The status of an entry. Links have all permission bits. -/
def Entry.status : Entry → Status
  | .file _ mode => ⟨.file, mode⟩
  | .directory mode => ⟨.directory, mode⟩
  | .link _ => ⟨.link, 0o777⟩

namespace FileSystem

/-! ## Looking -/

/-- The content of the file at a path, links followed. -/
def read (fs : FileSystem) (p : Path) : Except IoError Bytes := do
  match ← fs.find true p with
  | (_, .file content _) => .ok content
  | (_, .directory _) => .error .isDirectory
  | (_, .link _) => .error .linkLoop

/-- The status of what stands at a path, links followed. -/
def status (fs : FileSystem) (p : Path) : Except IoError Status := do
  return (← fs.find true p).2.status

/-- The status of what stands at a path, a link at the end not followed. -/
def linkStatus (fs : FileSystem) (p : Path) : Except IoError Status := do
  return (← fs.find false p).2.status

/-- The entries of a directory, ordered by name. -/
def list (fs : FileSystem) (p : Path) : Except IoError (List (String × EntryKind)) := do
  match ← fs.find true p with
  | (l, .directory _) => .ok ((fs.children l).map fun (name, e) => (name, e.status.kind))
  | _ => .error .notDirectory

/-- The absolute path of a place. -/
def pathOf (l : Location) : Path :=
  ⟨"/" ++ String.intercalate "/" l.reverse⟩

/-- The absolute path without links of what stands at a path. A long path is not refused
here, because only its parts are looked up. -/
def canonical (fs : FileSystem) (p : Path) : Except IoError Path := do
  if p.text.toList.contains '\x00' then .error .zeroByte
  if p.text.isEmpty then .error .noEntry
  let l ← fs.walkWithin true linkLimit (fs.start p) p.fullSteps
  if (fs.lookup? l).isNone then .error .noEntry
  return pathOf l

/-! ## Changing -/

/-- Makes the content the whole content of the file at a path, links followed. A file that
does not exist is created. -/
def write (fs : FileSystem) (p : Path) (content : Bytes) : Except IoError FileSystem := do
  if p.endsWithSeparator && (fs.locateParent p).isOk then .error .isDirectory
  let l ← fs.locate true p
  match fs.lookup? l with
  | none => .ok (fs.put l (.file content fileMode))
  | some (.file _ mode) => .ok (fs.put l (.file content mode))
  | some (.directory _) => .error .isDirectory
  | some (.link _) => .error .linkLoop

/-- Sets the permission bits of what stands at a path, links followed. -/
def setMode (fs : FileSystem) (p : Path) (mode : Nat) : Except IoError FileSystem := do
  match ← fs.find true p with
  | (l, .file content _) => .ok (fs.put l (.file content mode))
  | (l, .directory _) => .ok (fs.put l (.directory mode))
  | (_, .link _) => .error .linkLoop

/-- Moves a file or a link, itself and not what it points to, to another path, and replaces
the file or link that stands there. Directories are not moved. -/
def rename (fs : FileSystem) (source target : Path) : Except IoError FileSystem := do
  let (sourceDir, sourceName?) ← fs.locateParent source
  let (targetDir, targetName?) ← fs.locateParent target
  match sourceName?, targetName? with
  | some sourceName, some targetName =>
    if nameLimit < sourceName.utf8ByteSize then .error .nameTooLong
    let moved := sourceName :: sourceDir
    let place := targetName :: targetDir
    match fs.lookup? moved with
    | none => .error .noEntry
    | some entry =>
      if nameLimit < targetName.utf8ByteSize then .error .nameTooLong
      if entry.isDirectory then .error .isDirectory
      if source.endsWithSeparator || target.endsWithSeparator then .error .notDirectory
      if fs.isDirectory place then .error .isDirectory
      if moved = place then .ok fs else .ok ((fs.erase moved).put place entry)
  | _, _ => .error .busy

/-- Removes a file or a link. -/
def remove (fs : FileSystem) (p : Path) : Except IoError FileSystem := do
  match ← fs.locateParent p with
  | (_, none) => .error .isDirectory
  | (dir, some name) =>
    if nameLimit < name.utf8ByteSize then .error .nameTooLong
    match fs.lookup? (name :: dir) with
    | none => .error .noEntry
    | some entry =>
      if entry.isDirectory then .error .isDirectory
      if p.endsWithSeparator then .error .notDirectory
      .ok (fs.erase (name :: dir))

/-! ## Building trees -/

/-- Creates the directories of a chain of names below `here` that do not exist yet. -/
def makeDirectoriesAt (fs : FileSystem) (here : Location) : List String → FileSystem
  | [] => fs
  | name :: rest =>
    if name = "." then makeDirectoriesAt fs here rest
    else if name = ".." then makeDirectoriesAt fs here.tail rest
    else
      let l := name :: here
      match fs.lookup? l with
      | some (.link target) =>
        match fs.walkWithin true linkLimit (if target.isAbsolute then [] else here)
            target.fullSteps with
        | .ok place => makeDirectoriesAt fs place rest
        | .error _ => fs
      | some _ => makeDirectoriesAt fs l rest
      | none => makeDirectoriesAt (fs.put l (.directory directoryMode)) l rest

/-- Creates a directory with all that leads to it. -/
def makeDirectories (fs : FileSystem) (p : Path) : FileSystem :=
  fs.makeDirectoriesAt (fs.start p) p.steps

/-- Creates a symbolic link where nothing stands yet. -/
def makeLink (fs : FileSystem) (p target : Path) : Except IoError FileSystem := do
  if target.text.isEmpty then .error .noEntry
  match ← fs.locateParent p with
  | (_, none) => .error (.system 17)
  | (dir, some name) =>
    if nameLimit < name.utf8ByteSize then .error .nameTooLong
    if (fs.lookup? (name :: dir)).isSome then .error (.system 17)
    if p.endsWithSeparator then .error .noEntry
    .ok (fs.put (name :: dir) (.link target))

end FileSystem

end LicenseAudit
