import LicenseAudit.FileSystem.Error
import LicenseAudit.Path.Basic
import LicenseAudit.Text.Utf8

/-!
# File systems

A file system is a value: which entry stands at which place, and which place relative paths
start from. It keeps permission bits, but they open and close nothing here: its operations are those
of a process that may do everything. What a process may not do, and what goes wrong on a disk, is
said beside the value, by the calls that are refused or fail (`Program.refusing`,
`Program.failing`).

* `Location` — a place, given by its names from the innermost one outwards; the root is `[]`;
* `Entry` — a regular file, a directory or a symbolic link;
* `FileSystem.lookup?` — the entry at a place: the view through which everything else is said;
* `FileSystem.put`, `FileSystem.erase` — the two changes, which touch one place
  (`lookup?_put`, `lookup?_erase`).
-/

namespace LicenseAudit

/-- A place in a file system: the names that lead to it, the innermost first. -/
abbrev Location := List String

/-- What can stand at a place. Permission bits belong to files and directories. -/
inductive Entry where
  | file (content : Bytes) (mode : Nat)
  | directory (mode : Nat)
  | link (target : Path)
deriving DecidableEq

namespace Entry

/-- Whether the entry is a directory. -/
def isDirectory : Entry → Bool
  | directory _ => true
  | _ => false

end Entry

/-- A file system as seen by one process to which nothing is forbidden. The permission bits of the
entries are kept and never consulted. -/
structure FileSystem where
  entries : List (Location × Entry)
  workingDirectory : Location

namespace FileSystem

/-- Permission bits of a new directory. -/
def directoryMode : Nat := 0o755

/-- Permission bits of a new file. -/
def fileMode : Nat := 0o644

/-- The entry at a place. The root is always a directory. -/
def lookup? (fs : FileSystem) (l : Location) : Option Entry :=
  if l = [] then some (.directory directoryMode) else fs.entries.lookup l

/-- Whether a directory stands at a place. -/
def isDirectory (fs : FileSystem) (l : Location) : Bool :=
  match fs.lookup? l with
  | some e => e.isDirectory
  | none => false

/-- Removes the entry at a place. -/
def erase (fs : FileSystem) (l : Location) : FileSystem :=
  { fs with entries := fs.entries.filter fun e => e.1 != l }

/-- Sets the entry at a place. -/
def put (fs : FileSystem) (l : Location) (e : Entry) : FileSystem :=
  { fs with entries := (l, e) :: (fs.erase l).entries }

/-- The entries of a directory, ordered by name. -/
def children (fs : FileSystem) (dir : Location) : List (String × Entry) :=
  (fs.entries.filterMap fun (l, e) =>
    match l with
    | name :: parent => if parent = dir then some (name, e) else none
    | [] => none).mergeSort fun a b => a.1 ≤ b.1

theorem lookup_filter_ne (entries : List (Location × Entry)) (l k : Location) :
    (entries.filter fun e => e.1 != l).lookup k = if k = l then none else entries.lookup k := by
  induction entries with
  | nil => simp
  | cons e rest ih =>
    obtain ⟨p, e⟩ := e
    by_cases hp : p = l
    · subst hp
      rw [List.filter_cons_of_neg (by simp), ih]
      by_cases hk : k = p
      · simp [hk]
      · simp [List.lookup_cons, hk, beq_false_of_ne hk]
    · rw [List.filter_cons_of_pos (by simpa using hp), List.lookup_cons, List.lookup_cons, ih]
      by_cases hk : k = p
      · simp [hk, hp]
      · simp [beq_false_of_ne hk]

/-- Removing touches the one place only. -/
theorem lookup?_erase (fs : FileSystem) {l : Location} (hl : l ≠ []) (k : Location) :
    (fs.erase l).lookup? k = if k = l then none else fs.lookup? k := by
  simp only [lookup?, erase, lookup_filter_ne]
  by_cases hk : k = [] <;> by_cases hkl : k = l <;> simp_all

/-- Setting touches the one place only. -/
theorem lookup?_put (fs : FileSystem) {l : Location} (hl : l ≠ []) (e : Entry) (k : Location) :
    (fs.put l e).lookup? k = if k = l then some e else fs.lookup? k := by
  simp only [lookup?, put, erase, List.lookup_cons, lookup_filter_ne]
  by_cases hk : k = []
  · simp [hk, Ne.symm hl]
  · by_cases hkl : k = l
    · simp [hkl, hl]
    · simp [hk, hkl, beq_false_of_ne hkl]

end FileSystem

end LicenseAudit
