import LicenseAudit.Proofs.FileSystem.Written

/-!
# New files

A file system has grown if files have come to stand where nothing stood, and otherwise nothing but
file contents has changed. Every path to something leads there still, and a directory has the
entries that it had and those of the new files.

* `FileSystem.Grown` — a file system after files have come to stand at some places.

## Results

* `Grown.find`, `Grown.find_back` — a path leads to what it led to, or to a new file.
* `Grown.list` — a directory has its entries and those of the new files.
-/

namespace LicenseAudit.FileSystem

/-- Files have come to stand at the given places, where nothing stood. Elsewhere nothing but file
contents has changed. -/
structure Grown (new : Location → Prop) (fs fs' : FileSystem) : Prop where
  start  : fs'.workingDirectory = fs.workingDirectory
  shapes : ∀ l, ¬ new l → (fs'.lookup? l).map Entry.shape = (fs.lookup? l).map Entry.shape
  vacant : ∀ l, new l → fs.lookup? l = none
  file   : ∀ l, new l → ∃ content mode, fs'.lookup? l = some (.file content mode)

/-- Where entries of one shape stand, the same stands or a file. -/
theorem end_of_shape {fs fs' : FileSystem} {l : Location} {e e' : Entry}
    (hEntry : fs.lookup? l = some e) (hEntry' : fs'.lookup? l = some e')
    (hShape : e'.shape = e.shape) :
    fs'.lookup? l = fs.lookup? l ∨ ∃ content mode, fs'.lookup? l = some (.file content mode) := by
  cases e' with
  | file content mode => exact Or.inr ⟨content, mode, hEntry'⟩
  | directory | link =>
    rw [hEntry, hEntry', Entry.eq_of_shape (by simp) hShape.symm]
    exact Or.inl rfl

namespace Grown

variable {fs fs' : FileSystem} {new : Location → Prop} {followLast : Bool} {p : Path}
  {l : Location} (h : Grown new fs fs')

include h

theorem exists_lookup? {e : Entry} (hEntry : fs.lookup? l = some e) :
    ∃ e', fs'.lookup? l = some e' ∧ e'.shape = e.shape := by
  have hOld : ¬ new l := by
    intro hNew
    cases (h.vacant l hNew).symm.trans hEntry
  have hShape := h.shapes l hOld
  rw [hEntry, Option.map_some] at hShape
  exact Option.map_eq_some_iff.mp hShape

theorem exists_lookup?_back {e' : Entry} (hEntry : fs'.lookup? l = some e') (hOld : ¬ new l) :
    ∃ e, fs.lookup? l = some e ∧ e.shape = e'.shape := by
  have hShape := h.shapes l hOld
  rw [hEntry, Option.map_some] at hShape
  exact Option.map_eq_some_iff.mp hShape.symm

/-- What is no file is all shape. -/
theorem keeps : Keeps fs fs' where
  start := h.start
  entries := by
    intro l e hEntry hOther
    obtain ⟨e', hEntry', hShape⟩ := h.exists_lookup? hEntry
    rw [hEntry', Entry.eq_of_shape hOther hShape]

/-- Directories and links have not come. -/
theorem keeps_back : Keeps fs' fs where
  start := h.start.symm
  entries := by
    intro l e hEntry hOther
    have hOld : ¬ new l := by
      intro hNew
      obtain ⟨content, mode, hFile⟩ := h.file l hNew
      exact hOther content mode (Option.some.inj (hEntry.symm.trans hFile))
    obtain ⟨e', hEntry', hShape⟩ := h.exists_lookup?_back hEntry hOld
    rw [hEntry', Entry.eq_of_shape hOther hShape]

/-- A path that leads to something leads there still. -/
theorem find {e : Entry} (hFind : fs.find followLast p = .ok (l, e)) :
    ∃ e', fs'.find followLast p = .ok (l, e') ∧ e'.shape = e.shape := by
  obtain ⟨hLocate, hEntry⟩ := find_eq_ok_iff.mp hFind
  obtain ⟨e', hEntry', hShape⟩ := h.exists_lookup? hEntry
  exact ⟨e', find_eq_ok_iff.mpr ⟨locate_keeps h.keeps (end_of_shape hEntry hEntry' hShape) hLocate,
    hEntry'⟩, hShape⟩

/-- A path that leads to something leads to a new file or to what it led to. -/
theorem find_back {e' : Entry} (hFind : fs'.find followLast p = .ok (l, e')) (hOld : ¬ new l) :
    ∃ e, fs.find followLast p = .ok (l, e) ∧ e.shape = e'.shape := by
  obtain ⟨hLocate, hEntry'⟩ := find_eq_ok_iff.mp hFind
  obtain ⟨e, hEntry, hShape⟩ := h.exists_lookup?_back hEntry' hOld
  exact ⟨e, find_eq_ok_iff.mpr ⟨locate_keeps h.keeps_back (end_of_shape hEntry' hEntry hShape)
    hLocate, hEntry⟩, hShape⟩

theorem linkStatus {s : Status} (hStatus : fs.linkStatus p = .ok s) : fs'.linkStatus p = .ok s := by
  obtain ⟨l, e, hFind, rfl⟩ := find_of_linkStatus hStatus
  obtain ⟨e', hFind', hShape⟩ := h.find hFind
  rw [FileSystem.linkStatus, hFind', ← status_eq_of_shape hShape]
  rfl

theorem status {s : Status} (hStatus : fs.status p = .ok s) : fs'.status p = .ok s := by
  obtain ⟨l, e, hFind, rfl⟩ := find_of_status hStatus
  obtain ⟨e', hFind', hShape⟩ := h.find hFind
  rw [FileSystem.status, hFind', ← status_eq_of_shape hShape]
  rfl

/-- No link has come. -/
theorem linkStatus_back {s : Status} (hStatus : fs'.linkStatus p = .ok s) (hLink : s.kind = .link) :
    fs.linkStatus p = .ok s := by
  obtain ⟨l, e', hFind', rfl⟩ := find_of_linkStatus hStatus
  have hOld : ¬ new l := by
    intro hNew
    obtain ⟨content, mode, hFile⟩ := h.file l hNew
    obtain rfl := Option.some.inj ((find_eq_ok_iff.mp hFind').2.symm.trans hFile)
    cases hLink
  obtain ⟨e, hFind, hShape⟩ := h.find_back hFind' hOld
  rw [FileSystem.linkStatus, hFind, ← status_eq_of_shape hShape]
  rfl

/-- What can be read can be read still. -/
theorem exists_read {content : Bytes} (hRead : fs.read p = .ok content) :
    ∃ content', fs'.read p = .ok content' := by
  obtain ⟨l, mode, hFind⟩ := find_of_read hRead
  obtain ⟨e', hFind', hShape⟩ := h.find hFind
  cases e' with
  | file content' mode' => exact ⟨content', by rw [FileSystem.read, hFind']; rfl⟩
  | directory | link => cases hShape

/-- A directory has its entries and those of the new files in it. -/
theorem list (hTree : fs.WellFormed) (hTree' : fs'.WellFormed)
    {entries : List (String × EntryKind)} (hList : fs.list p = .ok entries) :
    ∃ entries', fs'.list p = .ok entries' ∧ entries ⊆ entries' ∧ ∀ entry ∈ entries',
      entry ∈ entries ∨
      entry.2 = .file ∧ ∃ l, fs'.Seat (p.join ⟨entry.1⟩) l entry.1 ∧ new (entry.1 :: l) := by
  obtain ⟨l, mode, hFind, rfl⟩ := find_of_list hList
  obtain ⟨e', hFind', hShape⟩ := h.find hFind
  obtain rfl : e' = .directory mode := Entry.eq_of_shape (by simp) hShape
  have hList' : fs'.list p = .ok ((fs'.children l).map fun c => (c.1, c.2.status.kind)) := by
    rw [FileSystem.list, hFind']
    rfl
  refine ⟨_, hList', ?_, ?_⟩
  · intro entry hMem
    obtain ⟨⟨n, e⟩, hChild, rfl⟩ := List.mem_map.mp hMem
    obtain ⟨e', hEntry', hSame⟩ := h.exists_lookup? ((hTree.mem_children_iff).mp hChild)
    refine List.mem_map.mpr ⟨(n, e'), hTree'.mem_children_iff.mpr hEntry', ?_⟩
    rw [status_eq_of_shape hSame]
  · intro entry hMem
    obtain ⟨⟨n, e'⟩, hChild, rfl⟩ := List.mem_map.mp hMem
    have hEntry' := hTree'.mem_children_iff.mp hChild
    by_cases hNew : new (n :: l)
    · obtain ⟨content, mode', hFile⟩ := h.file _ hNew
      obtain rfl := Option.some.inj (hEntry'.symm.trans hFile)
      obtain ⟨l', hOpens, hLocate, -⟩ := opens_of_list hList'
      obtain rfl : l' = l := Except.ok.inj (hLocate.symm.trans (find_eq_ok_iff.mp hFind').1)
      have hProper : ProperName n := hTree'.names (mem_children.mp hChild)
      exact Or.inr ⟨rfl, l', hOpens.seat hProper, hNew⟩
    · obtain ⟨e, hEntry, hSame⟩ := h.exists_lookup?_back hEntry' hNew
      refine Or.inl (List.mem_map.mpr ⟨(n, e), hTree.mem_children_iff.mpr hEntry, ?_⟩)
      rw [status_eq_of_shape hSame]

end Grown

end LicenseAudit.FileSystem
