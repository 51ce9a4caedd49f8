import LicenseAudit.Proofs.Audit.FixAll
import LicenseAudit.Proofs.Program.Failure
import LicenseAudit.Proofs.Program.Install

/-!
# Repairs of one file

A repair reads the file, looks for the marker and puts the header in where it lacks it. Its answer
says what has become of the file, on a disk that may fail any of its calls. Where the header carries
the marker, the next repair finds it, so that the header is added once however often the file is
repaired. A repair that fails spares the file; its temporary file stays behind only where the
removal fails as well.

* `Engine.Headed` — a file that has received the header;
* `Engine.Course` — the ways in which a repair ends;
* `Engine.Truthful` — an answer that is true of the file before and after the repair;
* `Engine.Untouched` — a file to which repairs have not added the header;
* `Engine.Once` — the end of any number of repairs.

## Results

* `course_fixFile` — a repair ends in one of these ways.
* `run_fixFile_of_carries` — nothing is done to a file that carries the marker.
* `Kept.step`, `once_of_kept` — until the header is added nothing is touched; it is added once at
  most.
* `fixFile_idempotent` — the answers are true, and a repair is not done twice.
* `not_fixFile_exact` — a marker that a file without a header carries is not told of, and a repair
  that fails can leave its temporary file. -/

namespace LicenseAudit

open Text (containsText encode)

variable {fs s t : FileSystem} {p : Path} {faults : Call → Option Fault}

namespace FileSystem

/-- If nothing is said to stand at a path with a seat, the path is not refused. -/
theorem Seat.fits_of_noEntry {dir : Location} {n : String} (h : fs.Seat p dir n)
    (hNone : fs.linkStatus p = .error .noEntry) : p.refusal? n = none := by
  cases hRefusal : p.refusal? n with
  | none => rfl
  | some cause =>
    exfalso
    rw [FileSystem.linkStatus, FileSystem.find, h.locate_of_refusal hRefusal] at hNone
    obtain rfl : cause = .noEntry := Except.error.inj hNone
    obtain hText | ⟨-, -, hLong⟩ := refusal?_eq_some_iff.mp hRefusal
    · -- only the empty text denotes nothing anywhere, and it ends in no name
      have hEmpty : p.text = "" := by
        unfold checkText at hText
        split at hText
        · cases hText
        · split at hText
          · rename_i hEmpty
            simpa using hEmpty
          · split at hText <;> cases hText
      obtain rfl : p = ⟨""⟩ := by rw [← hEmpty]
      exact absurd h.fileName?_eq (by simp [show (⟨""⟩ : Path).fileName? = none by decide])
    · cases hLong

end FileSystem

namespace Engine

open Program (Admits Spared shown)

variable {e : Engine} {header : String} {old content : Bytes}

-- ---------------------------------------------------------------------------
-- How a repair ends
-- ---------------------------------------------------------------------------

/-- The repair of a file that takes a header, by what reading it is answered. -/
theorem run_fixFile (h : e.Takes p header) (faults : Call → Option Fault) (fs : FileSystem) :
    ((e.fixFile p).failing faults).run fs =
      match shown faults fs p with
      | .error cause => (.error (.read p cause), fs)
      | .ok content =>
        if carries content e.marker then (.ok .alreadyCompliant, fs)
        else
          match ((Program.replace e.tag p (insertHeader content (encode header.toList))).failing
            faults).run fs with
          | (.ok (), s) => (.ok .added, s)
          | (.error cause, s) => (.error (.write p cause), s) := by
  simp only [fixFile, h.supports, h.header, Bool.not_true, Bool.false_eq_true, if_false,
    Program.failing_bind, Program.run_bind, Program.run_failing_read]
  cases shown faults fs p with
  | error cause => rfl
  | ok content =>
    simp only
    split
    · rfl
    · rw [Program.failing_bind, Program.run_bind]
      generalize ((Program.replace e.tag p _).failing faults).run fs = x
      obtain ⟨reply, s⟩ := x
      cases reply <;> rfl

/-- The file lacked the marker and has received the header. Its status is what it was, unless the
disk denies the file; no temporary file is left, and nothing else differs. -/
structure Headed (e : Engine) (faults : Call → Option Fault) (p : Path) (header : String)
    (old : Bytes) (fs s : FileSystem) : Prop where
  before  : fs.read p = .ok old
  lacked  : carries old e.marker = false
  content : s.read p = .ok (insertHeader old (encode header.toList))
  status  : Admits faults p → s.status p = fs.status p
  vacant  : ∀ st, s.linkStatus (p.temporarySibling e.tag) ≠ .ok st
  rest    : ∀ l, s.lookup? l ≠ fs.lookup? l → fs.locate false p = .ok l

/-- The ways in which a repair ends. -/
inductive Course (e : Engine) (p : Path) (faults : Call → Option Fault) (fs : FileSystem) :
    Except FileError FixOutcome → FileSystem → Prop where
  | unsupported (h : e.headers.supports p = false ∨ e.headers.headerFor? p = none) :
      Course e p faults fs (.ok .unsupported) fs
  | unread {header : String} {cause : IoError} (hTakes : e.Takes p header)
      (hShown : shown faults fs p = .error cause) :
      Course e p faults fs (.error (.read p cause)) fs
  | compliant {header : String} {content : Bytes} (hTakes : e.Takes p header)
      (hShown : shown faults fs p = .ok content) (hCarries : carries content e.marker = true) :
      Course e p faults fs (.ok .alreadyCompliant) fs
  | added {header : String} {old : Bytes} {s : FileSystem} (hTakes : e.Takes p header)
      (hShown : shown faults fs p = .ok old) (hHeaded : e.Headed faults p header old fs s) :
      Course e p faults fs (.ok .added) s
  | unwritten {header : String} {old : Bytes} {cause : IoError} {s : FileSystem}
      (hTakes : e.Takes p header) (hShown : shown faults fs p = .ok old)
      (hLacks : carries old e.marker = false) (hSpared : Spared faults e.tag p fs s) :
      Course e p faults fs (.error (.write p cause)) s

/-- **A repair ends in one of these ways**, whichever of its calls fail. -/
theorem course_fixFile (hTree : fs.WellFormed)
    (hVacant : ∀ st, fs.linkStatus (p.temporarySibling e.tag) ≠ .ok st)
    (hPlain : ∀ st, fs.linkStatus p = .ok st → st.kind ≠ .link) (faults : Call → Option Fault) :
    e.Course p faults fs (((e.fixFile p).failing faults).run fs).1
      (((e.fixFile p).failing faults).run fs).2 := by
  by_cases hNone : e.headers.supports p = false ∨ e.headers.headerFor? p = none
  · rw [fixFile_eq_pure hNone]
    exact .unsupported hNone
  obtain ⟨header, hTakes⟩ := exists_takes hNone
  rw [run_fixFile hTakes]
  cases hShown : shown faults fs p with
  | error cause => exact .unread hTakes hShown
  | ok old =>
    simp only
    cases hMarker : carries old e.marker with
    | true => exact .compliant hTakes hShown hMarker
    | false =>
      rw [if_neg Bool.false_ne_true]
      -- what can be read is a file, with the status that it has
      have hRead := Program.read_of_shown hShown
      obtain ⟨dir, n, mode, hSeat, hFits, hFile⟩ := FileSystem.seat_of_read hTree hRead hPlain
      have hOwn := hSeat.linkStatus hFits hFile
      have hKind : ∀ st, fs.linkStatus p = .ok st → st.kind = .file := by
        intro st hStatus
        rw [← Except.ok.inj (hOwn.symm.trans hStatus)]
        rfl
      have hOld := hSeat.status hFits hFile
      obtain ⟨mode', hInherits, hLands, -⟩ := (Program.within_replace hTree hVacant faults
        (insertHeader old (encode header.toList))).sound.2
      cases hReplace : ((Program.replace e.tag p (insertHeader old (encode header.toList))).failing
          faults).run fs with
      | mk reply s =>
        rw [hReplace] at hLands
        cases reply with
        | ok done =>
          obtain ⟨hNew, hStatus, hGone, hRest⟩ := FileSystem.Placed.seen hLands hKind
          refine .added hTakes hShown ⟨hRead, hMarker, hNew, fun hAdmits => ?_, hGone, hRest⟩
          rw [hStatus, hOld, hInherits.kept hAdmits _ hOld]
        | error cause =>
          exact .unwritten hTakes hShown hMarker
            (Program.replace_spares hTree hRead hVacant hPlain hReplace)

/-- Unless the header is added or was to be added, nothing changes. -/
theorem Course.eq_of_ne {answer : Except FileError FixOutcome} (h : e.Course p faults fs answer s)
    (hOther : answer ≠ .ok .added) (hNoWrite : ∀ cause, answer ≠ .error (.write p cause)) :
    s = fs := by
  cases h with
  | added => exact absurd rfl hOther
  | unwritten => exact absurd rfl (hNoWrite _)
  | unsupported | unread | compliant => rfl

/-- Unless the header is added, everything is spared. -/
theorem Course.spares {answer : Except FileError FixOutcome} (h : e.Course p faults fs answer s)
    (hOther : answer ≠ .ok .added) : Spared faults e.tag p fs s := by
  cases h with
  | added => exact absurd rfl hOther
  | unsupported | unread | compliant => exact .refl ..
  | unwritten _ _ _ hSpared => exact hSpared

/-- A header that can be written is added. -/
theorem fixFile_adds (hTree : fs.WellFormed)
    (hPlain : ∀ st, fs.linkStatus p = .ok st → st.kind ≠ .link) (hTakes : e.Takes p header)
    (hRead : fs.read p = .ok old) (hLacks : carries old e.marker = false)
    (hNone : fs.linkStatus (p.temporarySibling e.tag) = .error .noEntry) :
    ((e.fixFile p).run fs).1 = .ok .added := by
  obtain ⟨dir, n, mode, hSeat, hFits, hFile⟩ := FileSystem.seat_of_read hTree hRead hPlain
  have hVacant : ∀ st, fs.linkStatus (p.temporarySibling e.tag) ≠ .ok st := by
    intro st hStatus
    rw [hNone] at hStatus
    cases hStatus
  have hSpare := (hSeat.temporarySibling e.tag).fits_of_noEntry hNone
  obtain ⟨s, hReplace, -⟩ := Program.exists_installed_of_fits hTree hRead hSeat hVacant hSpare
    (insertHeader old (encode header.toList))
  have hRun := run_fixFile hTakes (fun _ => none) fs
  have hShown : shown (fun _ => none) fs p = .ok old := hRead
  rw [Program.failing_none, hShown] at hRun
  simp only [hLacks, Bool.false_eq_true, if_false, Program.failing_none, hReplace] at hRun
  rw [hRun]

-- ---------------------------------------------------------------------------
-- Repairs again
-- ---------------------------------------------------------------------------

/-- Nothing is done to a file that carries the marker: a repair finds it, or cannot read the
file. -/
theorem run_fixFile_of_carries (hTakes : e.Takes p header) (hRead : s.read p = .ok content)
    (hCarries : carries content e.marker = true) (faults : Call → Option Fault) :
    ∃ answer, ((e.fixFile p).failing faults).run s = (answer, s) ∧ answer ≠ .ok .added ∧
      (faults (.read p) = none → answer = .ok .alreadyCompliant) := by
  rw [run_fixFile hTakes, shown, hRead]
  cases faults (.read p) with
  | none =>
    simp only [hCarries, if_true]
    exact ⟨_, rfl, by simp, fun _ => rfl⟩
  | some fault => exact ⟨_, rfl, by simp, fun hNone => by cases hNone⟩

/-- A file that has received a header with the marker carries it. -/
theorem Headed.carries (h : e.Headed faults p header old fs s)
    (hMarker : containsText header e.marker = true) :
    ∃ content, s.read p = .ok content ∧ LicenseAudit.carries content e.marker = true :=
  ⟨_, h.content, carries_insertHeader hMarker old⟩

/-- Repairs of one file, one after the other, each on a disk of its own. -/
def repairs (e : Engine) (p : Path) (disks : List (Call → Option Fault)) :
    Program (List (Except FileError FixOutcome)) :=
  disks.mapM fun faults => (e.fixFile p).failing faults

theorem run_repairs_cons (disks : List (Call → Option Fault)) :
    (e.repairs p (faults :: disks)).run fs =
      let first := ((e.fixFile p).failing faults).run fs
      let more := (e.repairs p disks).run first.2
      (first.1 :: more.1, more.2) := by
  simp only [repairs, List.mapM_cons, Program.run_bind, Program.run_pure]

/-- However often a file that carries the marker is repaired, nothing is added to it. -/
theorem run_repairs_of_carries (hTakes : e.Takes p header) (hRead : s.read p = .ok content)
    (hCarries : carries content e.marker = true) (disks : List (Call → Option Fault)) :
    .ok .added ∉ ((e.repairs p disks).run s).1 ∧ ((e.repairs p disks).run s).2 = s := by
  induction disks with
  | nil => exact ⟨List.not_mem_nil, rfl⟩
  | cons faults disks ih =>
    obtain ⟨answer, hRun, hOther, -⟩ := run_fixFile_of_carries hTakes hRead hCarries faults
    rw [run_repairs_cons]
    simp only [hRun, List.mem_cons, not_or]
    exact ⟨⟨hOther.symm, ih.1⟩, ih.2⟩

/-- Whether the answer says that the header was added. -/
def isAddition : Except FileError FixOutcome → Bool
  | .ok .added => true
  | _ => false

theorem isAddition_iff {answer : Except FileError FixOutcome} :
    isAddition answer = true ↔ answer = .ok .added := by
  unfold isAddition
  split
  · simp
  · rename_i hOther
    simpa using hOther

theorem countP_isAddition_eq_zero {answers : List (Except FileError FixOutcome)}
    (h : .ok .added ∉ answers) : answers.countP isAddition = 0 :=
  List.countP_eq_zero.mpr fun _ hMem hAdded => h (isAddition_iff.mp hAdded ▸ hMem)

/-- Everything that was there is as it was. A temporary file is left only where a removal fails. -/
structure Untouched (e : Engine) (p : Path) (disks : List (Call → Option Fault))
    (fs s : FileSystem) : Prop where
  same    : FileSystem.SameAt p fs s
  rest    : ∀ l, s.lookup? l ≠ fs.lookup? l →
    fs.locate false (p.temporarySibling e.tag) = .ok l
  others  : ∀ l x, fs.lookup? l = some x → s.lookup? l = some x
  removed : (∀ faults ∈ disks, faults (.remove (p.temporarySibling e.tag)) = none) → s = fs

theorem Untouched.refl (e : Engine) (p : Path) (disks : List (Call → Option Fault))
    (fs : FileSystem) : e.Untouched p disks fs fs where
  same    := .refl p fs
  rest    := fun _ hDiffers => absurd rfl hDiffers
  others  := fun _ _ hEntry => hEntry
  removed := fun _ => rfl

/-- The end of any number of repairs: the header has been added once at most, and the file is
untouched if it has not been added. -/
structure Once (e : Engine) (p : Path) (header : String) (disks : List (Call → Option Fault))
    (fs : FileSystem) (answers : List (Except FileError FixOutcome)) (s : FileSystem) : Prop where
  one   : answers.countP isAddition ≤ 1
  none  : .ok .added ∉ answers → e.Untouched p disks fs s
  added : .ok .added ∈ answers → ∃ old, ∃ faults ∈ disks, e.Headed faults p header old fs s

-- ---------------------------------------------------------------------------
-- At the site of the file
-- ---------------------------------------------------------------------------

section Site

variable {site : Site e.tag} {before : Cells} {past : List (Call → Option Fault)}

/-- So far nothing differs but the temporary file, which is there only if a removal has failed. -/
structure Kept (site : Site e.tag) (before : Cells) (past : List (Call → Option Fault))
    (fs t : FileSystem) : Prop where
  shows   : ∃ spare, site.Shows t { before with spare := spare }
  alters  : FileSystem.Alters site.Owns fs t
  removed : (∀ faults ∈ past, faults (.remove site.temporary) = none) → t = fs

theorem Kept.untouched (hShows : site.Shows fs before) (hVacant : before.spare = none)
    (h : Kept site before past fs t) : e.Untouched site.path past fs t := by
  obtain ⟨spare, hNow⟩ := h.shows
  have hFile : t.lookup? site.place = fs.lookup? site.place := hNow.file.trans hShows.file.symm
  refine ⟨⟨?_, ?_⟩, fun l hDiffers => ?_, fun l x hEntry => ?_, h.removed⟩
  · rw [hNow.seat.read hNow.fits hNow.file, hShows.seat.read hShows.fits hShows.file]
  · rw [hNow.seat.status hNow.fits hNow.file, hShows.seat.status hShows.fits hShows.file]
  · by_cases hOwns : site.Owns l
    · rcases hOwns with rfl | ⟨hFits, rfl⟩
      · exact absurd hFile hDiffers
      · exact hShows.spareSeat.locate_own hFits
    · exact absurd (h.alters.outside l hOwns) hDiffers
  · by_cases hOwns : site.Owns l
    · rcases hOwns with rfl | ⟨hFits, rfl⟩
      · rw [hFile, hEntry]
      · rw [hShows.spare hFits, hVacant] at hEntry
        cases hEntry
    · rw [h.alters.outside l hOwns, hEntry]

/-- A file whose cells hold the header has received it. -/
theorem headed_of_shows (hShows : site.Shows fs before) (hVacant : before.spare = none)
    (hLacks : LicenseAudit.carries before.content e.marker = false) {mode : Nat}
    (hMode : Admits faults site.path → mode = before.mode)
    (hNow : site.Shows t ⟨insertHeader before.content (encode header.toList), mode, none⟩)
    (hAlters : FileSystem.Alters site.Owns fs t) :
    e.Headed faults site.path header before.content fs t where
  before := hShows.seat.read hShows.fits hShows.file
  lacked := hLacks
  content := hNow.seat.read hNow.fits hNow.file
  status hAdmits := by
    rw [hNow.seat.status hNow.fits hNow.file, hShows.seat.status hShows.fits hShows.file,
      hMode hAdmits]
  vacant := hNow.vacant rfl
  rest l hDiffers := by
    by_cases hOwns : site.Owns l
    · rcases hOwns with rfl | ⟨hFits, rfl⟩
      · exact hShows.seat.locate_own hShows.fits
      · rw [hNow.spare hFits, hShows.spare hFits, hVacant] at hDiffers
        exact absurd rfl hDiffers
    · exact absurd (hAlters.outside l hOwns) hDiffers

/-- A repair of a file that is kept adds the header, or keeps the file. -/
theorem Kept.step (hTree : fs.WellFormed) (hShows : site.Shows fs before)
    (hVacant : before.spare = none)
    (hPlain : ∀ st, fs.linkStatus site.path = .ok st → st.kind ≠ .link)
    (hTakes : e.Takes site.path header) (h : Kept site before past fs t)
    (faults : Call → Option Fault) {answer : Except FileError FixOutcome}
    (hRun : ((e.fixFile site.path).failing faults).run t = (answer, s)) :
    answer = .ok .added ∧ e.Headed faults site.path header before.content fs s ∨
      answer ≠ .ok .added ∧ Kept site before (past ++ [faults]) fs s := by
  obtain ⟨spare, hNow⟩ := h.shows
  obtain ⟨after, hTreated, hAfter, hAlters⟩ := (meets_fixFile hTakes _).run hNow
  rw [hRun] at hTreated hAfter hAlters
  have hStill := h.alters.trans hAlters
  -- where every temporary file is removed, this is a repair of the tree as it was
  have hRemoved : answer ≠ .ok .added →
      (∀ f ∈ past ++ [faults], f (.remove site.temporary) = none) → s = fs := by
    intro hOther hAll
    obtain rfl : t = fs := h.removed fun f hMem => hAll f (List.mem_append_left _ hMem)
    have hCourse := course_fixFile (e := e) hTree (hShows.vacant hVacant) hPlain faults
    rw [hRun] at hCourse
    exact (hCourse.spares hOther).removed (hAll faults (by simp))
  have hKept : answer ≠ .ok .added → after.content = before.content → after.mode = before.mode →
      Kept site before (past ++ [faults]) fs s := by
    intro hOther hContent hMode
    have hCells : after = { before with spare := after.spare } := by
      rw [← hContent, ← hMode]
    exact ⟨⟨after.spare, hCells ▸ hAfter⟩, hStill, hRemoved hOther⟩
  cases hTreated with
  | unread => exact Or.inr ⟨nofun, hKept nofun rfl rfl⟩
  | compliant => exact Or.inr ⟨nofun, hKept nofun rfl rfl⟩
  | added hLacks hLeft =>
    cases hLeft with
    | replaced hMode =>
      exact Or.inl ⟨rfl, headed_of_shows hShows hVacant hLacks hMode hAfter hStill⟩
  | unwritten hLacks hLeft =>
    cases hLeft <;> exact Or.inr ⟨nofun, hKept nofun rfl rfl⟩

/-- **Until the header is added nothing is touched, and it is added once at most**, if it carries
the marker. -/
theorem once_of_kept (hTree : fs.WellFormed) (hShows : site.Shows fs before)
    (hVacant : before.spare = none)
    (hPlain : ∀ st, fs.linkStatus site.path = .ok st → st.kind ≠ .link)
    (hTakes : e.Takes site.path header) (hMarker : containsText header e.marker = true)
    (disks : List (Call → Option Fault)) (h : Kept site before past fs t) :
    e.Once site.path header (past ++ disks) fs ((e.repairs site.path disks).run t).1
      ((e.repairs site.path disks).run t).2 := by
  induction disks generalizing past t with
  | nil =>
    rw [List.append_nil]
    exact ⟨Nat.zero_le 1, fun _ => h.untouched hShows hVacant,
      fun hMem => absurd hMem List.not_mem_nil⟩
  | cons faults disks ih =>
    rw [run_repairs_cons]
    cases hRun : ((e.fixFile site.path).failing faults).run t with
    | mk answer s =>
      rcases h.step hTree hShows hVacant hPlain hTakes faults hRun with
        ⟨rfl, hHeaded⟩ | ⟨hOther, hKept⟩
      · obtain ⟨content, hRead, hCarries⟩ := hHeaded.carries hMarker
        obtain ⟨hNot, hSame⟩ := run_repairs_of_carries hTakes hRead hCarries disks
        simp only [hSame]
        refine ⟨?_, fun hNone => absurd List.mem_cons_self hNone,
          fun _ => ⟨_, faults, by simp, hHeaded⟩⟩
        rw [List.countP_cons_of_pos (isAddition_iff.mpr rfl), countP_isAddition_eq_zero hNot]
      · obtain ⟨hOne, hNone, hAdded⟩ := ih hKept
        rw [List.append_assoc, List.singleton_append] at hNone hAdded
        refine ⟨?_, fun hNot => ?_, fun hMem => ?_⟩
        · rwa [List.countP_cons_of_neg (mt isAddition_iff.mp hOther)]
        · exact hNone (not_or.mp (mt List.mem_cons.mpr hNot)).2
        · exact hAdded ((List.mem_cons.mp hMem).resolve_left hOther.symm)

end Site

/-- Nothing is done to a file that cannot be read. -/
theorem run_repairs_of_unread (hTakes : e.Takes p header) {cause : IoError}
    (hRead : fs.read p = .error cause) (disks : List (Call → Option Fault)) :
    .ok .added ∉ ((e.repairs p disks).run fs).1 ∧ ((e.repairs p disks).run fs).2 = fs := by
  induction disks with
  | nil => exact ⟨List.not_mem_nil, rfl⟩
  | cons faults disks ih =>
    have hShown : ∃ other, shown faults fs p = .error other := by
      rw [shown, hRead]
      cases faults (.read p) <;> exact ⟨_, rfl⟩
    obtain ⟨other, hShown⟩ := hShown
    rw [run_repairs_cons, run_fixFile hTakes, hShown]
    simp only [List.mem_cons, not_or]
    refine ⟨⟨fun hSame => ?_, ih.1⟩, ih.2⟩
    cases hSame

/-- **However often a file is repaired, the header is added once at most**, if it carries the
marker. -/
theorem once_repairs (hTree : fs.WellFormed)
    (hVacant : ∀ st, fs.linkStatus (p.temporarySibling e.tag) ≠ .ok st)
    (hPlain : ∀ st, fs.linkStatus p = .ok st → st.kind ≠ .link) (hTakes : e.Takes p header)
    (hMarker : containsText header e.marker = true) (disks : List (Call → Option Fault)) :
    e.Once p header disks fs ((e.repairs p disks).run fs).1 ((e.repairs p disks).run fs).2 := by
  cases hRead : fs.read p with
  | error cause =>
    obtain ⟨hNot, hSame⟩ := run_repairs_of_unread hTakes hRead disks
    rw [hSame]
    refine ⟨?_, fun _ => .refl e p disks fs, fun hMem => absurd hMem hNot⟩
    rw [countP_isAddition_eq_zero hNot]
    exact Nat.zero_le 1
  | ok old =>
    obtain ⟨dir, n, mode, hSeat, hFits, hFile⟩ := FileSystem.seat_of_read hTree hRead hPlain
    have hShows : (⟨p, dir, n⟩ : Site e.tag).Shows fs ⟨old, mode, none⟩ :=
      Site.shows_of_vacant hSeat hFits hFile hVacant
    have hStart : Kept (⟨p, dir, n⟩ : Site e.tag) ⟨old, mode, none⟩ [] fs fs :=
      ⟨⟨none, hShows⟩, .refl _ _, fun _ => rfl⟩
    exact once_of_kept hTree hShows rfl hPlain hTakes hMarker disks hStart

-- ---------------------------------------------------------------------------
-- True answers
-- ---------------------------------------------------------------------------

/-- The answer of a repair is true of the file. No header applies just if it says so, and then no
call is made. The file carries the marker, or cannot be read, just if the answer says so. Otherwise
the header is added, as the answer says, or cannot be written; if no call fails and nothing is in
the way of the temporary file, it is added. Nothing is changed unless the file was written or was to
be written, and everything is spared unless the header was added; and if the header carries the
marker, nothing is done to the file from then on. -/
structure Truthful (e : Engine) (p : Path) (faults : Call → Option Fault) (fs : FileSystem)
    (answer : Except FileError FixOutcome) (s : FileSystem) : Prop where
  unsupported : answer = .ok .unsupported ↔
    e.headers.supports p = false ∨ e.headers.headerFor? p = none
  silent      : answer = .ok .unsupported → e.fixFile p = pure (.ok .unsupported)
  compliant   : answer = .ok .alreadyCompliant ↔ ∃ header content, e.Takes p header ∧
    shown faults fs p = .ok content ∧ carries content e.marker = true
  unread      : ∀ cause, answer = .error (.read p cause) ↔
    ∃ header, e.Takes p header ∧ shown faults fs p = .error cause
  unchanged   : answer ≠ .ok .added → (∀ cause, answer ≠ .error (.write p cause)) → s = fs
  spared      : answer ≠ .ok .added → Spared faults e.tag p fs s
  remaining   : ∀ header old, e.Takes p header → shown faults fs p = .ok old →
    carries old e.marker = false →
      answer = .ok .added ∧ e.Headed faults p header old fs s ∨
        ∃ cause, answer = .error (.write p cause)
  added       : answer = .ok .added →
    ∃ header old, e.Takes p header ∧ e.Headed faults p header old fs s
  effective   : ∀ header old, e.Takes p header → fs.read p = .ok old →
    carries old e.marker = false → (∀ c, faults c = none) →
      fs.linkStatus (p.temporarySibling e.tag) = .error .noEntry → answer = .ok .added
  again       : ∀ header, e.Takes p header → containsText header e.marker = true →
    answer = .ok .added → ∀ faults',
      (((e.fixFile p).failing faults').run s).2 = s ∧
      (faults' (.read p) = none →
        (((e.fixFile p).failing faults').run s).1 = .ok .alreadyCompliant)

variable {answer : Except FileError FixOutcome}

theorem Course.unsupported_iff (h : e.Course p faults fs answer s) :
    answer = .ok .unsupported ↔ e.headers.supports p = false ∨ e.headers.headerFor? p = none := by
  constructor
  · rintro rfl
    cases h with
    | unsupported hNone => exact hNone
  · intro hNone
    cases h with
    | unsupported => rfl
    | unread hTakes | compliant hTakes | added hTakes | unwritten hTakes =>
      exact absurd hNone hTakes.not_unsupported

theorem Course.unread_iff (h : e.Course p faults fs answer s) (cause : IoError) :
    answer = .error (.read p cause) ↔
      ∃ header, e.Takes p header ∧ shown faults fs p = .error cause := by
  constructor
  · rintro rfl
    cases h with
    | unread hTakes hShown => exact ⟨_, hTakes, hShown⟩
  · rintro ⟨header, hTakes, hShown⟩
    cases h with
    | unsupported hNone => exact absurd hNone hTakes.not_unsupported
    | unread _ hShown' => rw [Except.error.inj (hShown.symm.trans hShown')]
    | compliant _ hShown' | added _ hShown' | unwritten _ hShown' =>
      cases hShown.symm.trans hShown'

/-- Of a file that takes a header and can be read, what the answer says follows from whether it
carries the marker. -/
theorem Course.of_shown (h : e.Course p faults fs answer s) (hTakes : e.Takes p header)
    (hShown : shown faults fs p = .ok content) :
    (carries content e.marker = true ∧ answer = .ok .alreadyCompliant) ∨
      carries content e.marker = false ∧
        (answer = .ok .added ∧ e.Headed faults p header content fs s ∨
          ∃ cause, answer = .error (.write p cause)) := by
  cases h with
  | unsupported hNone => exact absurd hNone hTakes.not_unsupported
  | unread _ hShown' => cases hShown.symm.trans hShown'
  | compliant _ hShown' hCarries =>
    obtain rfl := Except.ok.inj (hShown.symm.trans hShown')
    exact Or.inl ⟨hCarries, rfl⟩
  | added hTakes' hShown' hHeaded =>
    obtain rfl := Except.ok.inj (hShown.symm.trans hShown')
    obtain rfl := hTakes.unique hTakes'
    exact Or.inr ⟨hHeaded.lacked, Or.inl ⟨rfl, hHeaded⟩⟩
  | unwritten _ hShown' hLacks =>
    obtain rfl := Except.ok.inj (hShown.symm.trans hShown')
    exact Or.inr ⟨hLacks, Or.inr ⟨_, rfl⟩⟩

theorem Course.compliant_iff (h : e.Course p faults fs answer s) :
    answer = .ok .alreadyCompliant ↔ ∃ header content, e.Takes p header ∧
      shown faults fs p = .ok content ∧ carries content e.marker = true := by
  constructor
  · rintro rfl
    cases h with
    | compliant hTakes hShown hCarries => exact ⟨_, _, hTakes, hShown, hCarries⟩
  · rintro ⟨header, content, hTakes, hShown, hCarries⟩
    rcases h.of_shown hTakes hShown with ⟨-, hAnswer⟩ | ⟨hLacks, -⟩
    · exact hAnswer
    · rw [hCarries] at hLacks
      cases hLacks

theorem Course.exists_headed (h : e.Course p faults fs (.ok .added) s) :
    ∃ header old, e.Takes p header ∧ e.Headed faults p header old fs s := by
  cases h with
  | added hTakes hShown hHeaded => exact ⟨_, _, hTakes, hHeaded⟩

/-- **The answers of repairs are true, and a repair is not done twice.** Let nothing stand where the
temporary file would, and no link at the path. Then, whichever calls fail, the answer of a repair is
true of the file; and if the header carries the marker, it is added once at most, however often the
file is repaired. -/
theorem fixFile_idempotent (hTree : fs.WellFormed)
    (hVacant : ∀ st, fs.linkStatus (p.temporarySibling e.tag) ≠ .ok st)
    (hPlain : ∀ st, fs.linkStatus p = .ok st → st.kind ≠ .link) :
    (∀ faults, e.Truthful p faults fs
      (((e.fixFile p).failing faults).run fs).1 (((e.fixFile p).failing faults).run fs).2) ∧
    ∀ header, e.Takes p header → containsText header e.marker = true →
      ∀ disks : List (Call → Option Fault),
        e.Once p header disks fs ((e.repairs p disks).run fs).1
          ((e.repairs p disks).run fs).2 := by
  refine ⟨fun faults => ?_, fun header hTakes hMarker disks =>
    once_repairs hTree hVacant hPlain hTakes hMarker disks⟩
  have hCourse := course_fixFile hTree hVacant hPlain faults
  have hEffective : ∀ header old, e.Takes p header → fs.read p = .ok old →
      carries old e.marker = false → (∀ c, faults c = none) →
        fs.linkStatus (p.temporarySibling e.tag) = .error .noEntry →
          (((e.fixFile p).failing faults).run fs).1 = .ok .added := by
    intro header old hTakes hRead hLacks hNone hFree
    rw [show faults = fun _ => none from funext hNone, Program.failing_none]
    exact fixFile_adds hTree hPlain hTakes hRead hLacks hFree
  generalize ((e.fixFile p).failing faults).run fs = x at hCourse hEffective
  obtain ⟨answer, s⟩ := x
  simp only at hCourse hEffective ⊢
  refine ⟨hCourse.unsupported_iff, fun hNone => fixFile_eq_pure (hCourse.unsupported_iff.mp hNone),
    hCourse.compliant_iff, hCourse.unread_iff, hCourse.eq_of_ne, hCourse.spares, ?_, ?_,
    hEffective, ?_⟩
  · intro header old hTakes hShown hLacks
    rcases hCourse.of_shown hTakes hShown with ⟨hCarries, -⟩ | ⟨-, hEnd⟩
    · rw [hLacks] at hCarries
      cases hCarries
    · exact hEnd
  · rintro rfl
    exact hCourse.exists_headed
  · rintro header hTakes hMarker rfl faults'
    obtain ⟨header', old, hTakes', hHeaded⟩ := hCourse.exists_headed
    obtain rfl := hTakes.unique hTakes'
    obtain ⟨content, hRead, hCarries⟩ := hHeaded.carries hMarker
    obtain ⟨answer, hRun, -, hAnswer⟩ := run_fixFile_of_carries hTakes hRead hCarries faults'
    rw [hRun]
    exact ⟨rfl, hAnswer⟩

/-- The letter is added to the file, also where a disk on which nothing can be moved or removed has
left a temporary file; and once it is there nothing is done. -/
theorem fixFile_idempotent_one_file :
    oneFile.WellFormed ∧
      (∀ st, oneFile.linkStatus (Path.temporarySibling ⟨"a.rs"⟩ letterEngine.tag) ≠ .ok st) ∧
      (∀ st, oneFile.linkStatus ⟨"a.rs"⟩ = .ok st → st.kind ≠ .link) ∧
      ((letterEngine.fixFile ⟨"a.rs"⟩).run oneFile).1 = .ok .added ∧
      ∃ header, letterEngine.Takes ⟨"a.rs"⟩ header ∧
        containsText header letterEngine.marker = true ∧
        letterEngine.Once ⟨"a.rs"⟩ header [stuck, fun _ => none, Program.immovable] oneFile
          ((letterEngine.repairs ⟨"a.rs"⟩
            [stuck, fun _ => none, Program.immovable]).run oneFile).1
          ((letterEngine.repairs ⟨"a.rs"⟩
            [stuck, fun _ => none, Program.immovable]).run oneFile).2 := by
  have hSpare : oneFile.linkStatus (Path.temporarySibling ⟨"a.rs"⟩ letterEngine.tag) =
      .error .noEntry := rfl
  have hVacant : ∀ st, oneFile.linkStatus (Path.temporarySibling ⟨"a.rs"⟩ letterEngine.tag) ≠
      .ok st := by
    rw [hSpare]
    exact fun st hStatus => by cases hStatus
  have hOwn : oneFile.linkStatus ⟨"a.rs"⟩ = .ok ⟨.file, 0o644⟩ := rfl
  have hPlain : ∀ st, oneFile.linkStatus ⟨"a.rs"⟩ = .ok st → st.kind ≠ .link := by
    intro st hStatus
    rw [← Except.ok.inj (hOwn.symm.trans hStatus)]
    decide
  have hMarker : (⟨"L", [], []⟩ : Registry).Carries letterEngine.marker := by
    refine Registry.carries_of_standsInLine ⟨['L'], ?_, List.infix_refl _⟩
    decide
  have hSupports : letterEngine.headers.supports ⟨"a.rs"⟩ = true := by decide
  obtain ⟨header, hHeader, hContains⟩ := hMarker.exists_header hSupports
  have hTakes : letterEngine.Takes ⟨"a.rs"⟩ header := ⟨hSupports, hHeader⟩
  obtain ⟨hTruthful, hOnce⟩ := fixFile_idempotent wellFormed_oneFile hVacant hPlain
  refine ⟨wellFormed_oneFile, hVacant, hPlain, ?_, header, hTakes, hContains,
    hOnce header hTakes hContains _⟩
  have hAdded := (hTruthful fun _ => none).effective header [0x41] hTakes rfl rfl (fun _ => rfl)
    hSpare
  rwa [Program.failing_none] at hAdded

/-- The engine that takes every file and has no header for any. -/
def headerless : Engine := { letterEngine with headers := ⟨fun _ => true, fun _ => none⟩ }

/-- **What a repair does not tell, and what it leaves.** A file that carries the marker is
unsupported where there is no header for it. And a repair that fails leaves its temporary file on a
disk that neither moves nor removes it. -/
theorem not_fixFile_exact :
    (headerless.headers.supports ⟨"./a.rs"⟩ = true ∧
      (twoFiles [0x4C] []).read ⟨"./a.rs"⟩ = .ok [0x4C] ∧
      carries [0x4C] headerless.marker = true ∧
      ((headerless.fixFile ⟨"./a.rs"⟩).run (twoFiles [0x4C] [])).1 = .ok .unsupported) ∧
    oneFile.linkStatus (Path.temporarySibling ⟨"a.rs"⟩ letterEngine.tag) = .error .noEntry ∧
    (((letterEngine.fixFile ⟨"a.rs"⟩).failing stuck).run oneFile).1 =
      .error (.write ⟨"a.rs"⟩ (.system 1)) ∧
    (((letterEngine.fixFile ⟨"a.rs"⟩).failing stuck).run oneFile).2.linkStatus
      (Path.temporarySibling ⟨"a.rs"⟩ letterEngine.tag) = .ok ⟨.file, 0o644⟩ :=
  ⟨⟨rfl, rfl, by decide, rfl⟩, rfl, by decide +kernel, by decide +kernel⟩

end Engine

end LicenseAudit
