import LicenseAudit.Proofs.FileSystem.Canonical
import LicenseAudit.Proofs.Program.Install

/-!
# Files beside a replaced one

A file that is replaced changes one entry: its own, which is the file or a link to it. Who passes
through this entry comes to this file, so that no way to another file is touched.

* `Fronts` — an entry that is a file or leads to one;
* `Untouched` — a path with the same own entry and the same content in both.

## Results

* `walkWithin_elsewhere`, `read_elsewhere` — what is reached elsewhere stays where it is.
* `Installed.untouched` — a file with another canonical path stays as it was.
-/

namespace LicenseAudit.FileSystem

variable {fs fs' : FileSystem} {p q : Path} {l : Location}

-- ---------------------------------------------------------------------------
-- Ways that end elsewhere
-- ---------------------------------------------------------------------------

/-- Ways from one place along the same names end at one place, however many links they may
follow. -/
theorem walkWithin_unique {followLast : Bool} {k k' : Nat} {here l l' : Location}
    {steps : List String} (h : fs.walkWithin followLast k here steps = .ok l)
    (h' : fs.walkWithin followLast k' here steps = .ok l') : l = l' := by
  have hMore := walkWithin_more k' h
  rw [Nat.add_comm, walkWithin_more k h'] at hMore
  exact (Except.ok.inj hMore).symm

/-- Under the name stands a file, at the last place, or a link to one. Who comes here ends there. -/
inductive Fronts (fs : FileSystem) (dir : Location) (n : String) : Location → Prop where
  | file {content : Bytes} {mode : Nat}
      (hFile : fs.lookup? (n :: dir) = some (.file content mode)) : Fronts fs dir n (n :: dir)
  | link {target : Path} {links : Nat} {last : Location} {content : Bytes} {mode : Nat}
      (hLink : fs.lookup? (n :: dir) = some (.link target))
      (hWalk : fs.walkWithin true links (if target.isAbsolute then [] else dir)
        target.fullSteps = .ok last)
      (hFile : fs.lookup? last = some (.file content mode)) : Fronts fs dir n last

variable {dir last : Location} {n : String} {content : Bytes}

theorem exists_fronts (h : fs.LeadsToFile dir n content) : ∃ last, fs.Fronts dir n last := by
  rcases h with ⟨mode, hFile⟩ | ⟨target, last, links, mode, hLink, hWalk, hFile⟩
  · exact ⟨_, .file hFile⟩
  · exact ⟨last, .link hLink hWalk hFile⟩

theorem Fronts.ne_of_isDirectory (h : fs.Fronts dir n last) {d : Location}
    (hDir : fs.isDirectory d = true) : d ≠ n :: dir := by
  obtain ⟨mode, hEntry⟩ := exists_directory hDir
  rintro rfl
  cases h with
  | file hFile =>
    rw [hEntry] at hFile
    cases hFile
  | link hLink =>
    rw [hEntry] at hLink
    cases hLink

/-- Who passes through the name has come to the end of the way. -/
theorem Fronts.eq_of_firstStep (h : fs.Fronts dir n last) {k : Nat} {l : Location}
    {rest : List String} (hName : Nameable n) (hStep : FirstStep fs true dir l k n rest) :
    l = last := by
  cases hStep with
  | stay => exact absurd rfl hName.notHere
  | up => exact absurd rfl hName.notUp
  | vacant _ hVacant =>
    cases h with
    | file hFile => cases hVacant.symm.trans hFile
    | link hLink => cases hVacant.symm.trans hLink
  | linked _ hKeep => cases hKeep
  | enter _ hEntry hPlain hRest =>
    cases h with
    | file hFile =>
      cases rest with
      | nil =>
        rw [walkWithin_nil] at hRest
        exact (Except.ok.inj hRest).symm
      | cons next more =>
        -- no way goes on behind a file
        have hDir := (firstStep_of_ok hRest).1
        rw [FileSystem.isDirectory, hFile] at hDir
        cases hDir
    | link hLink =>
      obtain rfl := Option.some.inj (hEntry.symm.trans hLink)
      cases hPlain
  | follow _ hEntry _ hRest =>
    cases h with
    | file hFile => cases hEntry.symm.trans hFile
    | link hLink hWalk hFile =>
      obtain rfl := Entry.link.inj (Option.some.inj (hEntry.symm.trans hLink))
      cases rest with
      | nil =>
        rw [List.append_nil] at hRest
        exact walkWithin_unique hRest hWalk
      | cons next more =>
        obtain ⟨k', d, hLeads, hMore⟩ := exists_leads (Or.inl (List.cons_ne_nil _ _)) hRest
        obtain rfl := hLeads.eq_of_walkWithin hWalk
        have hDir := (firstStep_of_ok hMore).1
        rw [FileSystem.isDirectory, hFile] at hDir
        cases hDir

/-- A change of what stands before a file is not noticed on a way that ends elsewhere. -/
theorem walkWithin_elsewhere (hFront : fs.Fronts dir n last)
    (hElsewhere : ∀ l, l ≠ n :: dir → fs'.lookup? l = fs.lookup? l) {links : Nat}
    {here l : Location} {steps : List String}
    (h : fs.walkWithin true links here steps = .ok l) (hOther : l ≠ last) :
    fs'.walkWithin true links here steps = .ok l := by
  induction links using Nat.strongRecOn generalizing here steps with
  | ind links ihLinks =>
    induction steps generalizing here with
    | nil => rwa [walkWithin_nil] at h ⊢
    | cons name rest ih =>
      obtain ⟨hDir, hStep⟩ := firstStep_of_ok h
      have hDir' : fs'.isDirectory here = true := by
        rw [FileSystem.isDirectory, hElsewhere here (hFront.ne_of_isDirectory hDir)]
        exact hDir
      have hSame : Nameable name → fs'.lookup? (name :: here) = fs.lookup? (name :: here) := by
        intro hName
        refine hElsewhere _ fun hPlace => hOther ?_
        obtain ⟨rfl, rfl⟩ := List.cons.inj hPlace
        exact hFront.eq_of_firstStep hName hStep
      cases hStep with
      | stay hRest =>
        rw [walkWithin_cons, hDir']
        exact ih hRest
      | up hRest =>
        rw [walkWithin_cons, hDir']
        exact ih hRest
      | vacant hName hVacant hPlace =>
        rw [walkWithin_named hDir' hName, hSame hName, hVacant, hPlace]
        rfl
      | linked hName hKeep => cases hKeep
      | @enter _ _ _ e hName hEntry hPlain hRest =>
        rw [walkWithin_named hDir' hName, hSame hName, hEntry]
        cases e with
        | file content mode => exact ih hRest
        | directory mode => exact ih hRest
        | link target => cases hPlain
      | @follow links _ _ target hName hEntry hFollow hRest =>
        rw [walkWithin_named hDir' hName, hSame hName, hEntry]
        simp only [Bool.not_true, Bool.and_false, Bool.false_eq_true, if_false]
        exact ihLinks links (Nat.lt_succ_self links) hRest

/-- A path whose entry stands before a file leads to the file. -/
theorem Fronts.eq_of_locate (h : fs.Fronts dir n last) (hSeat : fs.Seat p dir n)
    (hLocate : fs.locate true p = .ok l) : l = last := by
  obtain ⟨k, hAt⟩ := hSeat.locate_eq true
  obtain ⟨-, -, hWalk⟩ := bind_eq_ok_iff.mp (hAt.symm.trans hLocate)
  obtain ⟨-, hStep⟩ := firstStep_of_ok hWalk
  obtain ⟨-, ⟨rfl, -⟩ | ⟨rfl, -⟩ | ⟨hName, -⟩⟩ := walkWithin_singleton hWalk
  · exact absurd rfl hSeat.proper.notHere
  · exact absurd rfl hSeat.proper.notUp
  · exact h.eq_of_firstStep hName hStep

/-- A change of what stands before a file is not noticed in a file elsewhere. -/
theorem read_elsewhere (hFront : fs.Fronts dir n last)
    (hStart : fs'.workingDirectory = fs.workingDirectory)
    (hElsewhere : ∀ l, l ≠ n :: dir → fs'.lookup? l = fs.lookup? l)
    (hRead : fs.read q = .ok content) (hOther : fs.locate true q ≠ .ok last) :
    fs'.read q = .ok content := by
  obtain ⟨l, mode, hFind⟩ := find_of_read hRead
  obtain ⟨hLocate, hFile⟩ := find_eq_ok_iff.mp hFind
  obtain ⟨hText, hWalk⟩ := locate_eq_ok_iff.mp hLocate
  have hLast : l ≠ last := by
    rintro rfl
    exact hOther hLocate
  have hPlace : l ≠ n :: dir := by
    rintro rfl
    cases hFront with
    | file => exact hLast rfl
    | link hLink => cases hFile.symm.trans hLink
  have hWalk' := walkWithin_elsewhere hFront hElsewhere hWalk hLast
  have hFrom : fs'.start q = fs.start q := by rw [FileSystem.start, hStart, FileSystem.start]
  have hFind' : fs'.find true q = .ok (l, .file content mode) := by
    refine find_eq_ok_iff.mpr ⟨locate_eq_ok_iff.mpr ⟨hText, ?_⟩, ?_⟩
    · rw [hFrom]
      exact hWalk'
    · rw [hElsewhere l hPlace, hFile]
  rw [FileSystem.read, hFind']
  rfl

-- ---------------------------------------------------------------------------
-- Installing beside a file
-- ---------------------------------------------------------------------------

/-- The path is found to be what it was, a link or a file, and the same is read at it. -/
structure Untouched (q : Path) (fs fs' : FileSystem) : Prop where
  entry   : fs'.find false q = fs.find false q
  content : fs'.read q = fs.read q

/-- **A file stays as it was where another one is installed.** What tells them apart is their
canonical paths. -/
theorem Installed.untouched {old kept : Bytes} (h : fs.Installed p content fs')
    (hStart : fs'.workingDirectory = fs.workingDirectory) (hTree : fs.WellFormed)
    (hRead : fs.read p = .ok old) (hKept : fs.read q = .ok kept)
    (hApart : fs.canonical p ≠ fs.canonical q) : Untouched q fs fs' := by
  obtain ⟨dir, n, hSeat, -, -, hElsewhere⟩ := h.exists_seat hStart
  obtain ⟨d, m, hSeat₂, -, hFile⟩ := exists_seat_of_read hTree hRead
  obtain ⟨rfl, rfl⟩ := hSeat.unique hSeat₂
  obtain ⟨last, hFront⟩ := exists_fronts hFile
  obtain ⟨l, mode, hFind⟩ := find_of_read hRead
  obtain ⟨hLocate, hEntry⟩ := find_eq_ok_iff.mp hFind
  obtain rfl := hFront.eq_of_locate hSeat hLocate
  have hOther : fs.locate true q ≠ .ok l := by
    intro hSame
    rw [canonical_of_locate hLocate hEntry, canonical_of_locate hSame hEntry] at hApart
    exact hApart rfl
  refine ⟨?_, ?_⟩
  · -- the path is resolved to its own entry as before, and that is not the one that changed
    obtain ⟨dir', n', hSeat', hFits', -⟩ := exists_seat_of_read hTree hKept
    have hPlace : n' :: dir' ≠ n :: dir := by
      intro hSame
      obtain ⟨rfl, rfl⟩ := List.cons.inj hSame
      obtain ⟨l', mode', hFind'⟩ := find_of_read hKept
      have hLocate' := (find_eq_ok_iff.mp hFind').1
      exact hOther (hFront.eq_of_locate hSeat' hLocate' ▸ hLocate')
    have hAfter := hSeat'.keeps (keepsWays_of_elsewhere hFile hStart hElsewhere)
    have hBefore := hSeat'.locate_own hFits'
    have hBehind := hAfter.locate_own hFits'
    rw [find, find, hBefore, hBehind]
    simp only [bind, Except.bind, hElsewhere _ hPlace]
  · rw [hKept]
    exact read_elsewhere hFront hStart hElsewhere hKept hOther

end LicenseAudit.FileSystem
