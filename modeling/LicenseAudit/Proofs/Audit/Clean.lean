import LicenseAudit.Proofs.Audit.Frame
import LicenseAudit.Proofs.Header.Marker

/-!
# Clean trees

A repair changes what can be read at a path only by the header of a fixed file, be the path that of
the file or lead to it through links. Where no file has failed, every eligible file carries the
marker afterwards, and a check of the tree is clean.

* `FileSystem.EndsAt` — a path leads to the place at which another one stands.

## Results

* `Mends.read_cases` — what can be read before a repair can be read afterwards, with a header in it
  if it was fixed.
* `Mends.mem_fixed` — a repair without failures has fixed every file that wanted a header.
* `Mends.read_of_marker` — what carries the marker reads as before.
* `Mends.carries` — after a repair without failures every eligible file carries the marker.
* `run_fixAll_cases` — how a repair ends on a disk that never fails.
* `exists_clean_check` — the check of a tree whose eligible files carry the marker is clean.
-/

namespace LicenseAudit

namespace FileSystem

/-- The first path leads to the place at which the second one stands itself. -/
def EndsAt (fs : FileSystem) (q p : Path) : Prop :=
  ∃ l, fs.locate true q = .ok l ∧ fs.locate false p = .ok l

/-- A file can be read where its path leads to. -/
theorem read_eq_ok_iff {fs : FileSystem} {q : Path} {l : Location} {content : Bytes}
    (hLocate : fs.locate true q = .ok l) :
    fs.read q = .ok content ↔ ∃ mode, fs.lookup? l = some (.file content mode) := by
  constructor
  · intro hRead
    obtain ⟨l', mode, hFind⟩ := find_of_read hRead
    obtain ⟨hPlace, hFile⟩ := find_eq_ok_iff.mp hFind
    obtain rfl : l = l' := Except.ok.inj (hLocate.symm.trans hPlace)
    exact ⟨mode, hFile⟩
  · rintro ⟨mode, hFile⟩
    rw [read, find_eq_ok_iff.mpr ⟨hLocate, hFile⟩]
    rfl

end FileSystem

namespace Engine

variable {e : Engine} {r : Registry} {fs fs' : FileSystem} {root : Path} {files : List Path}
  {o : FixAllOutcome} {content : Bytes}

-- ---------------------------------------------------------------------------
-- Reading after a repair
-- ---------------------------------------------------------------------------

/-- On a disk that never fails no entry comes or goes. -/
theorem Mends.alike (h : e.Mends (fun _ => none) files o fs fs') : fs.Alike fs' :=
  (h.tidy fun _ _ => Or.inl rfl).2

/-- What leads to a fixed file leads to its old content with its header in it. -/
theorem Mends.read_of_fixed (h : e.Mends (fun _ => none) files o fs fs') {p q : Path}
    {header : String} (hMem : p ∈ o.fixed) (hEnds : fs.EndsAt q p)
    (hHeader : e.headers.headerFor? p = some header) (hRead : fs.read q = .ok content) :
    fs.read p = .ok content ∧
      fs'.read q = .ok (insertHeader content (Text.encode header.toList)) := by
  obtain ⟨l, hLocate, hPlace⟩ := hEnds
  obtain ⟨l', content', mode, header', hBefore, hHeader', hAfter⟩ := h.added p hMem
  obtain ⟨hPlace', hFile⟩ := FileSystem.find_eq_ok_iff.mp hBefore
  obtain rfl : l' = l := Except.ok.inj (hPlace'.symm.trans hPlace)
  obtain rfl : header' = header := Option.some.inj (hHeader'.symm.trans hHeader)
  obtain ⟨mode', hFile'⟩ := (FileSystem.read_eq_ok_iff hLocate).mp hRead
  obtain ⟨rfl, rfl⟩ : content' = content ∧ mode = mode' := by
    rw [hFile] at hFile'
    exact Entry.file.inj (Option.some.inj hFile')
  have hLocate' : fs'.locate true q = .ok l' := by rw [h.alike.locate, hLocate]
  exact ⟨FileSystem.read_of_find hBefore,
    (FileSystem.read_eq_ok_iff hLocate').mpr ⟨_, (FileSystem.find_eq_ok_iff.mp hAfter).2⟩⟩

/-- What can be read reads as before, or is a fixed file and has the header of that file in it. -/
theorem Mends.read_cases (h : e.Mends (fun _ => none) files o fs fs') {q : Path}
    (hRead : fs.read q = .ok content) :
    fs'.read q = .ok content ∨
      ∃ p ∈ o.fixed, fs.EndsAt q p ∧ fs.read p = .ok content ∧
        ∃ header, e.headers.headerFor? p = some header ∧
          fs'.read q = .ok (insertHeader content (Text.encode header.toList)) := by
  by_cases hFixed : ∃ p ∈ o.fixed, fs.EndsAt q p
  · obtain ⟨p, hMem, hEnds⟩ := hFixed
    obtain ⟨-, -, -, header, -, hHeader, -⟩ := h.added p hMem
    obtain ⟨hBefore, hAfter⟩ := h.read_of_fixed hMem hEnds hHeader hRead
    exact Or.inr ⟨p, hMem, hEnds, hBefore, header, hHeader, hAfter⟩
  · obtain ⟨l, mode, hFind⟩ := FileSystem.find_of_read hRead
    obtain ⟨hLocate, hFile⟩ := FileSystem.find_eq_ok_iff.mp hFind
    have hLocate' : fs'.locate true q = .ok l := by rw [h.alike.locate, hLocate]
    refine Or.inl ((FileSystem.read_eq_ok_iff hLocate').mpr ⟨mode, ?_⟩)
    have hSame := (h.tidy fun _ _ => Or.inl rfl).1 l fun p hMem hPlace =>
      hFixed ⟨p, hMem, l, hLocate, hPlace⟩
    rw [hSame, hFile]

/-- A repair without failures has fixed every file that lacked the marker and takes a header. -/
theorem Mends.mem_fixed (h : e.Mends (fun _ => none) files o fs fs') (hNone : o.failures = [])
    {p : Path} {header : String} (hFile : p ∈ files) (hLacks : e.Lacks (fs.read p))
    (hHeader : e.headers.headerFor? p = some header) : p ∈ o.fixed := by
  rcases h.covered p hFile with hFixed | hFailed | hCarries | hNoHeader
  · exact hFixed
  · rw [hNone] at hFailed
    cases hFailed
  · exact absurd hCarries hLacks.not_carries
  · rw [hHeader] at hNoHeader
    cases hNoHeader

/-- What carries the marker reads as before, whatever path leads to it. -/
theorem Mends.read_of_marker (h : e.Mends (fun _ => none) files o fs fs') {q : Path}
    (hRead : fs.read q = .ok content) (hMarker : Text.encode e.marker.toList <:+: content) :
    fs'.read q = .ok content := by
  rcases h.read_cases hRead with hSame | ⟨p, hMem, -, hRead', -⟩
  · exact hSame
  · -- a fixed file lacked the marker
    exact absurd ⟨content, hRead', hMarker⟩ (h.fixed p hMem).2.not_carries

/-- After a repair without failures every eligible file carries the marker. -/
theorem Mends.carries (h : e.Mends (fun _ => none) files o fs fs') (hNone : o.failures = [])
    (hHeaders : e.headers = r.source) (hMarker : r.Carries e.marker)
    (hSupports : ∀ p ∈ files, e.headers.supports p = true) :
    ∀ p ∈ files, e.Carries (fs'.read p) := by
  intro p hFile
  obtain ⟨header, hHeader, hText⟩ : ∃ header, e.headers.headerFor? p = some header ∧
      Text.containsText header e.marker = true := by
    have hTakes := hSupports p hFile
    rw [hHeaders] at hTakes ⊢
    exact hMarker.exists_header hTakes
  rcases h.covered p hFile with hFixed | hFailed | ⟨content, hRead, hCarries⟩ | hNoHeader
  · obtain ⟨l, content, mode, header', -, hHeader', hFind⟩ := h.added p hFixed
    obtain rfl : header = header' := Option.some.inj (hHeader.symm.trans hHeader')
    have hInserted := carries_insertHeader hText content
    rw [LicenseAudit.carries, Text.occursIn_iff] at hInserted
    exact ⟨_, FileSystem.read_of_find hFind, hInserted⟩
  · rw [hNone] at hFailed
    cases hFailed
  · exact ⟨content, h.read_of_marker hRead hCarries, hCarries⟩
  · rw [hHeader] at hNoHeader
    cases hNoHeader

-- ---------------------------------------------------------------------------
-- Disks that never fail
-- ---------------------------------------------------------------------------

theorem supports_of_eligible (hTree : fs.WellFormed)
    (hFiles : ((e.eligible root).run fs).1 = .ok files) :
    ∀ p ∈ files, e.headers.supports p = true := by
  rw [← Program.refusing_none (e.eligible root)] at hFiles
  exact fun p hMem => ((eligible_found hTree hFiles).1 p hMem).1

/-- A check whose walk ends well reports what the files hold. -/
theorem exists_run_check (hTree : fs.WellFormed)
    (hFiles : ((e.eligible root).run fs).1 = .ok files) (schedule : List Pool.Event) :
    ∃ c, (e.check root schedule).run fs = (.ok c, fs) ∧ e.Reports fs.read files c := by
  rw [← Program.refusing_none (e.eligible root)] at hFiles
  have hCheck := exists_check (eligible_differ hTree hFiles) hFiles schedule
  rwa [Program.refusing_none] at hCheck

/-- A repair ends with the error of its walk, or has put the headers in that it reports. -/
theorem run_fixAll_cases (hTree : fs.WellFormed)
    (hVacant : ∀ p, e.Lacks (fs.read p) → ∀ st, fs.linkStatus (p.temporarySibling e.tag) ≠ .ok st)
    (first second : List Pool.Event) :
    (∃ failure, (e.fixAll root first second).run fs = (.error failure, fs)) ∨
    ∃ files o fs', ((e.eligible root).run fs).1 = .ok files ∧
      (e.fixAll root first second).run fs = (.ok o, fs') ∧
      e.Mends (fun _ => none) files o fs fs' := by
  have hCandid : Candid (Program.causes fun _ => none) := ⟨fun _ _ => rfl, fun _ => nofun⟩
  rw [← Program.failing_none (e.eligible root),
    ← Program.failing_none (e.fixAll root first second)]
  cases hFiles : (((e.eligible root).failing fun _ => none).run fs).1 with
  | error failure => exact Or.inl ⟨_, fixAll_of_walk_error hFiles first second⟩
  | ok files =>
    obtain ⟨o, fs', hRun, hMends⟩ :=
      exists_mends hTree hCandid hFiles (fun p _ => hVacant p) first second
    exact Or.inr ⟨files, o, fs', rfl, hRun, hMends⟩

-- ---------------------------------------------------------------------------
-- Clean checks
-- ---------------------------------------------------------------------------

/-- The check of a tree whose eligible files carry the marker is clean. -/
theorem exists_clean_check (hTree : fs.WellFormed)
    (hFiles : ((e.eligible root).run fs).1 = .ok files)
    (hAll : ∀ p ∈ files, e.Carries (fs.read p)) :
    ∃ c, ((e.check root).run fs).1 = .ok c ∧ c.isClean = true := by
  obtain ⟨c, hRun, hReports⟩ := exists_run_check hTree hFiles []
  have hVerdict : ∀ p ∈ files, e.verdict p (fs.read p) = .ok true :=
    fun p hFile => verdict_eq_true_iff.mpr (hAll p hFile)
  have hMissing : c.missing = [] := by
    refine List.eq_nil_iff_forall_not_mem.mpr fun p hMem => ?_
    obtain ⟨hFile, hLacks⟩ := (hReports.missing p).mp hMem
    cases (hVerdict p hFile).symm.trans hLacks
  have hFailures : c.failures = [] := by
    refine List.eq_nil_iff_forall_not_mem.mpr fun x hMem => ?_
    obtain ⟨p, hFile, hFails⟩ := (hReports.failures x).mp hMem
    cases (hVerdict p hFile).symm.trans hFails
  refine ⟨c, by rw [hRun], ?_⟩
  rw [CheckOutcome.isClean, hMissing, hFailures]
  rfl

end Engine

end LicenseAudit
