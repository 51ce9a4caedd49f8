import LicenseAudit.Proofs.Program.Replace

/-!
# Replacing what stands at a path

A replacement puts a new file where its path itself leads to. If a link stood there, the file takes
the place of the link, and what the link led to stays as it is. The path can be resolved afterwards
as it could before, because no way to a directory leads through a file or a link to one.

* `FileSystem.Installed` — a file system after a content was installed at a path.

## Results

* `keepsWays_of_elsewhere` — the place of a file that can be read is on no way to a directory.
* `replace_cases` — a replacement installs the content or changes nothing.
-/

namespace LicenseAudit

namespace FileSystem

variable {fs fs' : FileSystem} {p : Path} {dir : Location} {n : String} {old content : Bytes}

-- ---------------------------------------------------------------------------
-- Ways around a place
-- ---------------------------------------------------------------------------

theorem LeadsToFile.isDirectory_eq (h : fs.LeadsToFile dir n content) :
    fs.isDirectory (n :: dir) = false := by
  rw [FileSystem.isDirectory]
  rcases h with ⟨mode, hFile⟩ | ⟨target, -, -, -, hLink, -⟩
  · rw [hFile]
    rfl
  · rw [hLink]
    rfl

theorem LeadsToFile.lookup?_ne_none (h : fs.LeadsToFile dir n content) :
    fs.lookup? (n :: dir) ≠ none := by
  rcases h with ⟨mode, hFile⟩ | ⟨target, -, -, -, hLink, -⟩
  · rw [hFile]
    exact Option.some_ne_none _
  · rw [hLink]
    exact Option.some_ne_none _

/-- A change at such a place blocks no way to a directory. -/
theorem keepsWays_of_elsewhere (h : fs.LeadsToFile dir n content)
    (hStart : fs'.workingDirectory = fs.workingDirectory)
    (hElsewhere : ∀ l, l ≠ n :: dir → fs'.lookup? l = fs.lookup? l) : KeepsWays fs fs' where
  start := hStart
  directories := by
    intro l mode hDir
    rw [hElsewhere, hDir]
    rintro rfl
    have hNot := h.isDirectory_eq
    rw [isDirectory_of_lookup? hDir] at hNot
    cases hNot
  links := by
    intro name here d target k k' hLink hLeads hDir
    rw [hElsewhere, hLink]
    intro hPlace
    obtain ⟨rfl, rfl⟩ := List.cons.inj hPlace
    rcases h with ⟨mode, hFile⟩ | ⟨target', l, links, mode, hLink', hWalk, hFile⟩
    · rw [hFile] at hLink
      cases hLink
    · -- the link leads to one place only, and a file stands there
      obtain rfl : target' = target := by
        rw [hLink] at hLink'
        exact (Entry.link.inj (Option.some.inj hLink')).symm
      obtain rfl : l = d := hLeads.eq_of_walkWithin hWalk
      rw [FileSystem.isDirectory, hFile] at hDir
      cases hDir

-- ---------------------------------------------------------------------------
-- Installing a content
-- ---------------------------------------------------------------------------

/-- The second file system has a file with the content where the path leads to. It differs from the
first one there only, and something stood there before. -/
def Installed (fs : FileSystem) (p : Path) (content : Bytes) (fs' : FileSystem) : Prop :=
  ∃ dir n mode, fs'.Seat p dir n ∧ p.refusal? n = none ∧ fs.lookup? (n :: dir) ≠ none ∧
    fs'.lookup? (n :: dir) = some (.file content mode) ∧
    ∀ l, l ≠ n :: dir → fs'.lookup? l = fs.lookup? l

theorem Installed.read (h : fs.Installed p content fs') :
    fs'.read p = .ok content := by
  obtain ⟨dir, n, mode, hSeat, hFits, -, hFile, -⟩ := h
  exact hSeat.read hFits hFile

/-- Nothing comes into being. -/
theorem Installed.lookup?_eq_none (h : fs.Installed p content fs')
    {l : Location} (hVacant : fs.lookup? l = none) : fs'.lookup? l = none := by
  obtain ⟨dir, n, mode, -, -, hSome, -, hElsewhere⟩ := h
  rw [hElsewhere, hVacant]
  rintro rfl
  exact hSome hVacant

/-- The path led to the place before. -/
theorem Installed.exists_seat (h : fs.Installed p content fs')
    (hStart : fs'.workingDirectory = fs.workingDirectory) :
    ∃ dir n, fs.Seat p dir n ∧ fs'.Seat p dir n ∧ p.refusal? n = none ∧
      ∀ l, l ≠ n :: dir → fs'.lookup? l = fs.lookup? l := by
  obtain ⟨dir, n, mode, hSeat, hFits, -, hFile, hElsewhere⟩ := h
  -- the way back changes the file only
  have hWays : KeepsWays fs' fs := keepsWays_of_elsewhere (Or.inl ⟨mode, hFile⟩) hStart.symm
    fun l hPlace => (hElsewhere l hPlace).symm
  exact ⟨dir, n, hSeat.keeps hWays, hSeat, hFits, hElsewhere⟩

theorem put_put (fs : FileSystem) (l : Location) (e e' : Entry) :
    (fs.put l e).put l e' = fs.put l e' := by
  simp [put, erase]

/-- A file may come or change where no directory or link stands. -/
theorem keepsWays_put {l : Location} (hBelow : l ≠ [])
    (hFile : ∀ e, fs.lookup? l = some e → ∃ content mode, e = .file content mode) (e : Entry) :
    KeepsWays fs (fs.put l e) := by
  have hAlters : Alters (fun _ => True) fs (fs.put l e) := alters_put hBelow hFile e trivial
  exact hAlters.keeps.ways

/-- A temporary file that is moved over such a place is installed there. -/
theorem installed_of_moved {mode : Nat} {m : String} (hSeat : fs.Seat p dir n)
    (hFits : p.refusal? n = none) (hFile : fs.LeadsToFile dir n old)
    (hVacant : fs.lookup? (m :: dir) = none) (hStart : fs'.workingDirectory = fs.workingDirectory)
    (hElsewhere : ∀ l, l ≠ m :: dir → fs'.lookup? l = fs.lookup? l) :
    fs.Installed p content ((fs'.erase (m :: dir)).put (n :: dir) (.file content mode)) := by
  have hLookup : ∀ l, ((fs'.erase (m :: dir)).put (n :: dir) (.file content mode)).lookup? l =
      if l = n :: dir then some (.file content mode) else fs.lookup? l := by
    intro l
    rw [lookup?_put _ (List.cons_ne_nil n dir), lookup?_erase _ (List.cons_ne_nil m dir)]
    by_cases hPlace : l = n :: dir
    · rw [if_pos hPlace, if_pos hPlace]
    · rw [if_neg hPlace, if_neg hPlace]
      by_cases hSpare : l = m :: dir
      · rw [if_pos hSpare, hSpare, hVacant]
      · rw [if_neg hSpare, hElsewhere l hSpare]
  have hAfter : ∀ l, l ≠ n :: dir →
      ((fs'.erase (m :: dir)).put (n :: dir) (.file content mode)).lookup? l = fs.lookup? l := by
    intro l hPlace
    rw [hLookup, if_neg hPlace]
  refine ⟨dir, n, mode, hSeat.keeps (keepsWays_of_elsewhere hFile hStart hAfter), hFits,
    hFile.lookup?_ne_none, ?_, hAfter⟩
  rw [hLookup, if_pos rfl]

end FileSystem

namespace Program

variable {fs : FileSystem} {p : Path} {old content : Bytes} {tag : Nat}

/-- A temporary file that fits is written, takes over the permission bits and is moved to its
place. -/
theorem installed_of_fits {dir : Location} {n : String} (hSeat : fs.Seat p dir n)
    (hFits : p.refusal? n = none) (hFile : fs.LeadsToFile dir n old)
    (hRefusal : (p.temporarySibling tag).refusal? (temporaryName n tag) = none)
    (hVacant : fs.lookup? (temporaryName n tag :: dir) = none) (mode : Nat) (content : Bytes) :
    ((installTemporary (p.temporarySibling tag) p (some mode) content).run fs).1 = .ok () ∧
      fs.Installed p content
        ((installTemporary (p.temporarySibling tag) p (some mode) content).run fs).2 := by
  have hSibling := hSeat.temporarySibling tag
  have hBelow : temporaryName n tag :: dir ≠ [] := List.cons_ne_nil _ _
  have hOther : n :: dir ≠ temporaryName n tag :: dir :=
    fun hSame => temporaryName_ne n tag (List.cons.inj hSame).1.symm
  have hLookup := FileSystem.lookup?_put fs hBelow
  -- with any permission bits the temporary file leaves the ways as they are
  have hWays : ∀ mode, FileSystem.KeepsWays fs
      (fs.put (temporaryName n tag :: dir) (.file content mode)) := by
    refine fun mode => FileSystem.keepsWays_put hBelow (fun e hEntry => ?_) _
    rw [hVacant] at hEntry
    cases hEntry
  have hSpare : ∀ mode, (fs.put (temporaryName n tag :: dir) (.file content mode)).lookup?
      (temporaryName n tag :: dir) = some (.file content mode) := by
    intro mode
    rw [hLookup, if_pos rfl]
  -- it is written, takes over the permission bits and is moved over what stands at the path
  have hWrite := hSibling.write hRefusal hVacant content
  have hMode := (hSibling.keeps (hWays FileSystem.fileMode)).setMode hRefusal (hSpare _) mode
  rw [FileSystem.put_put] at hMode
  have hPlain : (fs.put (temporaryName n tag :: dir) (.file content mode)).isDirectory
      (n :: dir) = false := by
    rw [FileSystem.isDirectory, hLookup, if_neg hOther]
    exact hFile.isDirectory_eq
  have hRename := (hSeat.keeps (hWays mode)).rename (hSibling.keeps (hWays mode)) hFits hRefusal
    (temporaryName_ne n tag) hPlain rfl (hSpare mode)
  have hInstall : (installTemporary (p.temporarySibling tag) p (some mode) content).run fs =
      (.ok (), ((fs.put (temporaryName n tag :: dir) (.file content mode)).erase
        (temporaryName n tag :: dir)).put (n :: dir) (.file content mode)) := by
    rw [installTemporary, run_bind, write, run_ask, FileSystem.perform_write,
      FileSystem.change_ok hWrite]
    show ((Program.setMode _ _) >>= _).run _ = _
    rw [run_bind, setMode, run_ask, FileSystem.perform_setMode, FileSystem.change_ok hMode]
    show (Program.rename _ _).run _ = _
    rw [rename, run_ask, FileSystem.perform_rename, FileSystem.change_ok hRename]
  rw [hInstall]
  refine ⟨rfl, FileSystem.installed_of_moved hSeat hFits hFile hVacant rfl fun l hPlace => ?_⟩
  rw [hLookup, if_neg hPlace]

/-- The permission bits of a file that can be read are known. -/
theorem exists_run_replace_eq (hRead : fs.read p = .ok old) (tag : Nat) (content : Bytes) :
    ∃ mode, (replace tag p content).run fs =
      (replaceVia (p.temporarySibling tag) p (some mode) content).run fs := by
  obtain ⟨place, mode, hFind⟩ := FileSystem.find_of_read hRead
  have hStatus : fs.status p = .ok ⟨.file, mode⟩ := by
    rw [FileSystem.status, hFind]
    rfl
  refine ⟨mode, ?_⟩
  rw [replace, run_bind, run_status, hStatus]

/-- A replacement whose temporary file fits installs the content. -/
theorem exists_installed_of_fits {dir : Location} {n : String} (hTree : fs.WellFormed)
    (hRead : fs.read p = .ok old) (hSeat : fs.Seat p dir n)
    (hVacant : ∀ st, fs.linkStatus (p.temporarySibling tag) ≠ .ok st)
    (hRefusal : (p.temporarySibling tag).refusal? (temporaryName n tag) = none)
    (content : Bytes) :
    ∃ fs', (replace tag p content).run fs = (.ok (), fs') ∧ fs.Installed p content fs' := by
  obtain ⟨dir', n', hSeat', hFits, hFile⟩ := FileSystem.exists_seat_of_read hTree hRead
  obtain ⟨rfl, rfl⟩ := hSeat.unique hSeat'
  obtain ⟨mode, hReplace⟩ := exists_run_replace_eq hRead tag content
  have hSpare := (hSeat.temporarySibling tag).lookup?_eq_none hRefusal hVacant
  obtain ⟨hDone, hInstalled⟩ := installed_of_fits hSeat hFits hFile hRefusal hSpare mode content
  rw [hReplace, replaceVia, run_bind]
  generalize (installTemporary (p.temporarySibling tag) p (some mode) content).run fs = x
    at hDone hInstalled ⊢
  obtain ⟨reply, fs'⟩ := x
  obtain rfl : reply = .ok () := hDone
  exact ⟨fs', rfl, hInstalled⟩

/-- A temporary file that is refused is not written. -/
theorem run_installTemporary_of_refusal {dir : Location} {n : String} {cause : IoError}
    (hSeat : fs.Seat p dir n)
    (hRefusal : (p.temporarySibling tag).refusal? (temporaryName n tag) = some cause)
    (mode? : Option Nat) (content : Bytes) :
    (installTemporary (p.temporarySibling tag) p mode? content).run fs = (.error cause, fs) := by
  have hWrite := (hSeat.temporarySibling tag).write_of_refusal hRefusal content
  unfold installTemporary
  rw [run_bind, write, run_ask, FileSystem.perform_write,
    FileSystem.change_error hWrite]
  rfl

/-- A temporary file that is refused is neither written nor removed. -/
theorem run_replace_of_refusal {dir : Location} {n : String} {cause : IoError}
    (hRead : fs.read p = .ok old) (hSeat : fs.Seat p dir n)
    (hRefusal : (p.temporarySibling tag).refusal? (temporaryName n tag) = some cause)
    (content : Bytes) : (replace tag p content).run fs = (.error cause, fs) := by
  obtain ⟨mode, hReplace⟩ := exists_run_replace_eq hRead tag content
  have hRemove := (hSeat.temporarySibling tag).remove_of_refusal hRefusal
  rw [hReplace, replaceVia, run_bind, run_installTemporary_of_refusal hSeat hRefusal]
  show ((Program.remove _) >>= _).run _ = _
  rw [run_bind, remove, run_ask, FileSystem.perform_remove, FileSystem.change_error hRemove]
  rfl

/-- **A replacement installs the content or changes nothing**, also where a link stands. In the
second case not even a temporary file is left. -/
theorem replace_cases (hTree : fs.WellFormed) (hRead : fs.read p = .ok old)
    (hVacant : ∀ st, fs.linkStatus (p.temporarySibling tag) ≠ .ok st) (content : Bytes) :
    (∃ fs', (replace tag p content).run fs = (.ok (), fs') ∧ fs.Installed p content fs') ∨
      ∃ cause, (replace tag p content).run fs = (.error cause, fs) := by
  obtain ⟨dir, n, hSeat, -, -⟩ := FileSystem.exists_seat_of_read hTree hRead
  cases hRefusal : (p.temporarySibling tag).refusal? (temporaryName n tag) with
  | some cause => exact Or.inr ⟨cause, run_replace_of_refusal hRead hSeat hRefusal content⟩
  | none => exact Or.inl (exists_installed_of_fits hTree hRead hSeat hVacant hRefusal content)

/-- Where no place is taken by a temporary file, none stands beside a file. -/
theorem vacant_beside (hTree : fs.WellFormed) (hRead : fs.read p = .ok old)
    (hVacant : ∀ n dir, fs.lookup? (temporaryName n tag :: dir) = none) (st : Status) :
    fs.linkStatus (p.temporarySibling tag) ≠ .ok st := by
  obtain ⟨dir, n, hSeat, -, -⟩ := FileSystem.exists_seat_of_read hTree hRead
  exact (hSeat.temporarySibling tag).linkStatus_ne_ok (hVacant n dir) st

end Program

end LicenseAudit
