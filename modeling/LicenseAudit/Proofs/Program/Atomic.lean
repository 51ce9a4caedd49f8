import LicenseAudit.Proofs.Program.Beside
import LicenseAudit.Proofs.Program.Passage

/-!
# Replacements are atomic

A replacement can be stopped anywhere: any of its calls can fail, and the temporary file may have
been written in part only. Until it is moved into place, the temporary file is the only thing that
differs from the file system as it was, and no path of another name leads there. So the path shows
its old content or the new one.

* `FileSystem.Aside` — the temporary file stands beside the path;
* `FileSystem.Placed` — it was moved into its place;
* `FileSystem.SameAt` — nobody who looks at the path sees a difference;
* `Program.Effected`, `Program.Reverted` — how a replacement ends.

## Results

* `Aside.sameAt` — a temporary file is not seen at the path.
* `Aside.rename` — what is moved to the path is placed there, and nothing else differs.
* `replace_all_or_nothing` — a replacement is effected as a whole or not at all.
-/

namespace LicenseAudit

/-- What can be read of an entry. -/
def Entry.content? : Entry → Option Bytes
  | .file content _ => some content
  | .directory _ | .link _ => none

namespace FileSystem

variable {fs s s' : FileSystem} {p q : Path} {content : Bytes} {mode tag : Nat}

-- ---------------------------------------------------------------------------
-- Temporary files
-- ---------------------------------------------------------------------------

/-- The second file system has one file more, at the seat of the path. -/
def Aside (fs : FileSystem) (q : Path) (content : Bytes) (mode : Nat) (s : FileSystem) : Prop :=
  ∃ dir m, fs.Seat q dir m ∧ q.refusal? m = none ∧ fs.lookup? (m :: dir) = none ∧
    s = fs.put (m :: dir) (.file content mode)

/-- A file that comes is gone when it is removed. -/
theorem erase_put {l : Location} (hBelow : l ≠ []) (hVacant : fs.lookup? l = none) (e : Entry) :
    (fs.put l e).erase l = fs := by
  have hKeep : fs.entries.filter (fun entry => entry.1 != l) = fs.entries := by
    refine List.filter_eq_self.mpr fun entry hMem => bne_iff_ne.mpr ?_
    rintro rfl
    rw [lookup?, if_neg hBelow, List.lookup_eq_none_iff] at hVacant
    simpa using hVacant entry hMem
  rw [put, erase, List.filter_cons_of_neg (by simp), erase, List.filter_filter]
  simp [hKeep]

/-- Where no status is known a file is written to a place where nothing stands. -/
theorem aside_of_write (hTree : fs.WellFormed) (hVacant : ∀ st, fs.linkStatus q ≠ .ok st)
    (hWrite : fs.write q content = .ok s) : fs.Aside q content fileMode s := by
  obtain ⟨l, hLocate, ⟨hNone, rfl⟩ | ⟨old, mode, hFile, -⟩⟩ := write_eq_ok hWrite
  · have hPlain : fs.isDirectory l = false := by rw [FileSystem.isDirectory, hNone]
    obtain ⟨dir, m, hSeat, hFits, rfl | ⟨target, links, hLink, -⟩⟩ :=
      exists_seat_of_locate hTree hLocate hPlain
    · exact ⟨dir, m, hSeat, hFits, hNone, rfl⟩
    · exact absurd (hSeat.linkStatus hFits hLink) (hVacant _)
  · have hStatus : fs.status q = .ok ⟨.file, mode⟩ := by
      rw [FileSystem.status, find_eq_ok_iff.mpr ⟨hLocate, hFile⟩]
      rfl
    obtain ⟨st, hOwn⟩ := exists_linkStatus_of_status hStatus
    exact absurd hOwn (hVacant st)

/-- Where no status is known nothing is removed. -/
theorem remove_of_vacant (hVacant : ∀ st, fs.linkStatus q ≠ .ok st) (s : FileSystem) :
    fs.remove q ≠ .ok s := by
  intro hRemove
  obtain ⟨dir, n, e, hParent, hEntry, -, ⟨hOpen, hShort⟩, -⟩ := remove_eq_ok hRemove
  obtain ⟨hText, hSeat⟩ := seat_of_locateParent hParent hOpen
  exact hVacant _ (hSeat.linkStatus (refusal?_eq_none_iff.mpr ⟨hText, hShort⟩) hEntry)

/-- The temporary file blocks no way, and opens none. -/
theorem Aside.keepsWays (h : fs.Aside q content mode s) : KeepsWays fs s ∧ KeepsWays s fs := by
  obtain ⟨dir, m, hSeat, -, hVacant, rfl⟩ := h
  have hBelow : m :: dir ≠ [] := List.cons_ne_nil m dir
  have hLookup := lookup?_put fs hBelow (.file content mode)
  refine ⟨keepsWays_put hBelow (fun e hEntry => ?_) _, ?_⟩
  · rw [hVacant] at hEntry
    cases hEntry
  · have hFile := (hLookup (m :: dir)).trans (if_pos rfl)
    refine keepsWays_of_elsewhere (Or.inl ⟨mode, hFile⟩) rfl fun l hOther => ?_
    rw [hLookup, if_neg hOther]

theorem Aside.wellFormed (hTree : fs.WellFormed) (h : fs.Aside q content mode s) :
    s.WellFormed := by
  obtain ⟨dir, m, hSeat, -, hVacant, rfl⟩ := h
  refine hTree.put hSeat.proper hSeat.directory fun hDir => ?_
  rw [FileSystem.isDirectory, hVacant] at hDir
  cases hDir

/-- The temporary file takes other permission bits. -/
theorem Aside.setMode (h : fs.Aside q content mode s) (mode' : Nat) :
    ∃ s', s.setMode q mode' = .ok s' ∧ fs.Aside q content mode' s' := by
  have hWays := h.keepsWays.1
  obtain ⟨dir, m, hSeat, hFits, hVacant, rfl⟩ := h
  have hFile : (fs.put (m :: dir) (.file content mode)).lookup? (m :: dir) =
      some (.file content mode) := by
    rw [lookup?_put fs (List.cons_ne_nil m dir), if_pos rfl]
  refine ⟨_, (hSeat.keeps hWays).setMode hFits hFile mode', dir, m, hSeat, hFits, hVacant, ?_⟩
  exact put_put ..

/-- Without the temporary file everything is as it was. -/
theorem Aside.remove (h : fs.Aside q content mode s) : s.remove q = .ok fs := by
  have hWays := h.keepsWays.1
  obtain ⟨dir, m, hSeat, hFits, hVacant, rfl⟩ := h
  have hBelow : m :: dir ≠ [] := List.cons_ne_nil m dir
  have hFile : (fs.put (m :: dir) (.file content mode)).lookup? (m :: dir) =
      some (.file content mode) := by
    rw [lookup?_put fs hBelow, if_pos rfl]
  rw [(hSeat.keeps hWays).remove hFits hFile, erase_put hBelow hVacant]

/-- Only the place of the temporary file differs. -/
theorem Aside.locate_of_ne (h : fs.Aside q content mode s) {l : Location}
    (hDiffers : s.lookup? l ≠ fs.lookup? l) : fs.locate false q = .ok l := by
  obtain ⟨dir, m, hSeat, hFits, -, rfl⟩ := h
  have hPlace : l = m :: dir := by
    by_contra hOther
    exact hDiffers (by rw [lookup?_put fs (List.cons_ne_nil m dir), if_neg hOther])
  rw [hPlace]
  exact hSeat.locate_own hFits

-- ---------------------------------------------------------------------------
-- What is seen at the path
-- ---------------------------------------------------------------------------

/-- Who reads at the path, or asks for its status, is told the same or, in both, nothing. -/
structure SameAt (p : Path) (fs s : FileSystem) : Prop where
  content : (s.read p).toOption = (fs.read p).toOption
  status  : (s.status p).toOption = (fs.status p).toOption

theorem SameAt.refl (p : Path) (fs : FileSystem) : SameAt p fs fs := ⟨rfl, rfl⟩

theorem sameAt_of_find (h : (s.find true p).toOption = (fs.find true p).toOption) :
    SameAt p fs s := by
  have hRead : ∀ fs : FileSystem, (fs.read p).toOption =
      (fs.find true p).toOption.bind fun found => found.2.content? := by
    intro fs
    rw [FileSystem.read]
    rcases fs.find true p with cause | ⟨l, content | mode | target⟩ <;> rfl
  have hStatus : ∀ fs : FileSystem, (fs.status p).toOption =
      (fs.find true p).toOption.map fun found => found.2.status := by
    intro fs
    rw [FileSystem.status]
    rcases fs.find true p with cause | found <;> rfl
  exact ⟨by rw [hRead, hRead, h], by rw [hStatus, hStatus, h]⟩

/-- Nothing comes to be found at a path where nothing stands. -/
theorem Aside.find_ne_ok (hTree : fs.WellFormed)
    (h : fs.Aside (p.temporarySibling tag) content mode s)
    (hVacant : ∀ st, fs.linkStatus p ≠ .ok st) (found : Location × Entry) :
    s.find true p ≠ .ok found := by
  intro hFind
  have hTree' := h.wellFormed hTree
  obtain ⟨hTo, hBack⟩ := h.keepsWays
  obtain ⟨l, e⟩ := found
  obtain ⟨hLocate, hEntry⟩ := find_eq_ok_iff.mp hFind
  obtain ⟨dir, m, hSpare, -, -, rfl⟩ := h
  have hLookup := lookup?_put fs (List.cons_ne_nil m dir) (.file content mode)
  by_cases hPlace : l = m :: dir
  · -- the path cannot lead to the temporary file, which has another name, or through a link
    have hPlain : (fs.put (m :: dir) (.file content mode)).isDirectory l = false := by
      rw [FileSystem.isDirectory, hLookup, if_pos hPlace]
      rfl
    obtain ⟨d, n, hSeat, hFits, rfl | ⟨target, links, hLink, -⟩⟩ :=
      exists_seat_of_locate hTree' hLocate hPlain
    · obtain ⟨rfl, rfl⟩ := List.cons.inj hPlace
      obtain ⟨-, hName⟩ := ((hSeat.keeps hBack).temporarySibling tag).unique hSpare
      exact temporaryName_ne n tag hName
    · have hOther : n :: d ≠ m :: dir := by
        intro hSame
        rw [hLookup, if_pos hSame] at hLink
        cases hLink
      rw [hLookup, if_neg hOther] at hLink
      exact hVacant _ ((hSeat.keeps hBack).linkStatus hFits hLink)
  · -- elsewhere everything is found as before
    obtain ⟨hText, hWalk⟩ := locate_eq_ok_iff.mp hLocate
    have hFront : (fs.put (m :: dir) (.file content mode)).Fronts dir m (m :: dir) :=
      .file ((hLookup (m :: dir)).trans (if_pos rfl))
    have hElsewhere : ∀ k, k ≠ m :: dir →
        fs.lookup? k = (fs.put (m :: dir) (.file content mode)).lookup? k := by
      intro k hOther
      rw [hLookup, if_neg hOther]
    have hWalk' := walkWithin_elsewhere hFront hElsewhere hWalk hPlace
    rw [hLookup, if_neg hPlace] at hEntry
    have hStatus : fs.status p = .ok e.status := by
      rw [FileSystem.status, find_eq_ok_iff.mpr ⟨locate_eq_ok_iff.mpr ⟨hText, hWalk'⟩, hEntry⟩]
      rfl
    obtain ⟨st, hOwn⟩ := exists_linkStatus_of_status hStatus
    exact hVacant st hOwn

/-- **A temporary file is not seen at the path**, where a file stands or nothing. -/
theorem Aside.sameAt (hTree : fs.WellFormed)
    (h : fs.Aside (p.temporarySibling tag) content mode s)
    (hPlain : ∀ st, fs.linkStatus p = .ok st → st.kind = .file) : SameAt p fs s := by
  refine sameAt_of_find ?_
  cases hOwn : fs.linkStatus p with
  | error cause =>
    have hVacant : ∀ st, fs.linkStatus p ≠ .ok st := by
      intro st hStatus
      rw [hOwn] at hStatus
      cases hStatus
    have hNone : ∀ found, fs.find true p ≠ .ok found := by
      intro found hFind
      have hStatus : fs.status p = .ok found.2.status := by
        rw [FileSystem.status, hFind]
        rfl
      obtain ⟨st, hOwn⟩ := exists_linkStatus_of_status hStatus
      exact hVacant st hOwn
    have hNone' := h.find_ne_ok hTree hVacant
    cases hFind : s.find true p with
    | ok found => exact absurd hFind (hNone' found)
    | error cause' =>
      cases hFind' : fs.find true p with
      | ok found => exact absurd hFind' (hNone found)
      | error cause'' => rfl
  | ok st =>
    obtain ⟨⟨l, e⟩, hFind, hStatus⟩ := bind_eq_ok_iff.mp hOwn
    obtain rfl : e.status = st := Except.ok.inj hStatus
    have hKind := hPlain _ hOwn
    cases e with
    | directory | link => cases hKind
    | file old bits =>
      obtain ⟨d, n, hSeat, hFits, rfl⟩ := seat_of_find hTree hFind
      have hFile := (find_eq_ok_iff.mp hFind).2
      have hWays := h.keepsWays.1
      obtain ⟨dir, m, hSpare, -, -, rfl⟩ := h
      obtain ⟨rfl, rfl⟩ := (hSeat.temporarySibling tag).unique hSpare
      have hOther : n :: d ≠ temporaryName n tag :: d :=
        fun hSame => temporaryName_ne n tag (List.cons.inj hSame).1.symm
      have hFile' : (fs.put (temporaryName n tag :: d) (.file content mode)).lookup? (n :: d) =
          some (.file old bits) := by
        rw [lookup?_put fs (List.cons_ne_nil _ _), if_neg hOther, hFile]
      rw [hSeat.find hFits (fun _ => rfl) hFile,
        (hSeat.keeps hWays).find hFits (fun _ => rfl) hFile']

-- ---------------------------------------------------------------------------
-- Files in their place
-- ---------------------------------------------------------------------------

/-- The second file system has a file at the seat of the path, in place of what stood there, and no
temporary file. -/
def Placed (fs : FileSystem) (p : Path) (tag : Nat) (content : Bytes) (mode : Nat)
    (s : FileSystem) : Prop :=
  ∃ dir n, fs.Seat p dir n ∧ p.refusal? n = none ∧ fs.isDirectory (n :: dir) = false ∧
    fs.lookup? (temporaryName n tag :: dir) = none ∧ s = fs.put (n :: dir) (.file content mode)

/-- **What is moved to the path is placed there**, and nothing else differs. -/
theorem Aside.rename (h : fs.Aside (p.temporarySibling tag) content mode s)
    (hRename : s.rename (p.temporarySibling tag) p = .ok s') :
    fs.Placed p tag content mode s' := by
  obtain ⟨hTo, hBack⟩ := h.keepsWays
  obtain ⟨dir, m, hSpare, hFits, hVacant, rfl⟩ := h
  have hLookup := lookup?_put fs (List.cons_ne_nil m dir) (.file content mode)
  obtain ⟨sourceDir, source, d, n, e, hSource, hTarget, hEntry, -, hFree, ⟨hOpen, hShort⟩,
    hEnd⟩ := rename_eq_ok hRename
  -- what is moved is the temporary file
  have hParent := (hSpare.keeps hTo).locateParent
  rw [(refusal?_eq_none_iff.mp hFits).1] at hParent
  obtain ⟨rfl, hName⟩ := Prod.mk.inj (Except.ok.inj (hSource.symm.trans hParent))
  obtain rfl := Option.some.inj hName
  obtain rfl := Option.some.inj (hEntry.symm.trans ((hLookup _).trans (if_pos rfl)))
  -- and it comes beside its own place
  obtain ⟨hText, hSeat⟩ := seat_of_locateParent hTarget hOpen
  have hHere := hSeat.keeps hBack
  obtain ⟨rfl, rfl⟩ := (hHere.temporarySibling tag).unique hSpare
  have hOther : n :: d ≠ temporaryName n tag :: d :=
    fun hSame => temporaryName_ne n tag (List.cons.inj hSame).1.symm
  rw [isDirectory_put (List.cons_ne_nil _ _), if_neg hOther] at hFree
  refine ⟨d, n, hHere, refusal?_eq_none_iff.mpr ⟨hText, hShort⟩, hFree, hVacant, ?_⟩
  rcases hEnd with ⟨hSame, -⟩ | hMoved
  · exact absurd hSame.symm hOther
  · rw [hMoved, erase_put (List.cons_ne_nil _ _) hVacant]

/-- Where a file stands or nothing, a file that is placed is seen at the path. -/
theorem Placed.seen (h : fs.Placed p tag content mode s)
    (hPlain : ∀ st, fs.linkStatus p = .ok st → st.kind = .file) :
    s.read p = .ok content ∧ s.status p = .ok ⟨.file, mode⟩ ∧
      (∀ st, s.linkStatus (p.temporarySibling tag) ≠ .ok st) ∧
      ∀ l, s.lookup? l ≠ fs.lookup? l → fs.locate false p = .ok l := by
  obtain ⟨dir, n, hSeat, hFits, hFree, hVacant, rfl⟩ := h
  have hBelow : n :: dir ≠ [] := List.cons_ne_nil n dir
  have hLookup := lookup?_put fs hBelow (.file content mode)
  have hWays : KeepsWays fs (fs.put (n :: dir) (.file content mode)) := by
    refine keepsWays_put hBelow (fun e hEntry => ?_) _
    have hKind := hPlain _ (hSeat.linkStatus hFits hEntry)
    cases e with
    | file old bits => exact ⟨old, bits, rfl⟩
    | directory | link => cases hKind
  have hAfter := hSeat.keeps hWays
  have hFile := (hLookup (n :: dir)).trans (if_pos rfl)
  refine ⟨hAfter.read hFits hFile, hAfter.status hFits hFile, ?_, fun l hDiffers => ?_⟩
  · refine (hAfter.temporarySibling tag).linkStatus_ne_ok ?_
    have hOther : temporaryName n tag :: dir ≠ n :: dir :=
      fun hSame => temporaryName_ne n tag (List.cons.inj hSame).1
    rw [hLookup, if_neg hOther, hVacant]
  · have hPlace : l = n :: dir := by
      by_contra hOther
      exact hDiffers (by rw [hLookup, if_neg hOther])
    rw [hPlace]
    exact hSeat.locate_own hFits

-- ---------------------------------------------------------------------------
-- States of a replacement
-- ---------------------------------------------------------------------------

/-- Nothing differs, or a temporary file stands beside the path. -/
def Pending (fs : FileSystem) (q : Path) (s : FileSystem) : Prop :=
  s = fs ∨ ∃ content mode, fs.Aside q content mode s

/-- The state of a replacement: not yet moved into place, or placed. -/
def Underway (fs : FileSystem) (p : Path) (tag : Nat) (content : Bytes) (s : FileSystem) : Prop :=
  fs.Pending (p.temporarySibling tag) s ∨ ∃ mode, fs.Placed p tag content mode s

theorem Pending.refl (fs : FileSystem) (q : Path) : fs.Pending q fs := Or.inl rfl

theorem Aside.pending (h : fs.Aside q content mode s) : fs.Pending q s :=
  Or.inr ⟨content, mode, h⟩

theorem Pending.underway (h : fs.Pending (p.temporarySibling tag) s) (content : Bytes) :
    fs.Underway p tag content s := Or.inl h

theorem Pending.sameAt (hTree : fs.WellFormed) (h : fs.Pending (p.temporarySibling tag) s)
    (hPlain : ∀ st, fs.linkStatus p = .ok st → st.kind = .file) : SameAt p fs s := by
  rcases h with rfl | ⟨part, mode, hAside⟩
  · exact .refl p s
  · exact hAside.sameAt hTree hPlain

theorem Pending.locate_of_ne (h : fs.Pending q s) {l : Location}
    (hDiffers : s.lookup? l ≠ fs.lookup? l) : fs.locate false q = .ok l := by
  rcases h with rfl | ⟨part, mode, hAside⟩
  · exact absurd rfl hDiffers
  · exact hAside.locate_of_ne hDiffers

/-- To remove the temporary file leads back, also where there is none. -/
theorem Pending.remove (hVacant : ∀ st, fs.linkStatus q ≠ .ok st) (h : fs.Pending q s) :
    (s.perform (.remove q)).2 = fs := by
  rw [perform_remove]
  rcases h with rfl | ⟨part, mode, hAside⟩
  · cases hRemove : s.remove q with
    | error cause => rfl
    | ok s' => exact absurd hRemove (remove_of_vacant hVacant s')
  · rw [change_ok hAside.remove]

end FileSystem

namespace Program

open FileSystem (SameAt)

variable {fs s : FileSystem} {p q : Path} {content : Bytes} {mode tag : Nat}
  {faults : Call → Option Fault}

/-- The new file is placed, or it is not and a temporary file may be left. -/
def Lands (fs : FileSystem) (p : Path) (tag : Nat) (content : Bytes) (mode : Nat) :
    Except IoError Unit → FileSystem → Prop
  | .ok (), s => fs.Placed p tag content mode s
  | .error _, s => fs.Pending (p.temporarySibling tag) s

/-- A temporary file is written as a whole, or nothing is. -/
theorem run_write_cases (hTree : fs.WellFormed) (hVacant : ∀ st, fs.linkStatus q ≠ .ok st)
    (content : Bytes) :
    (∃ s, (write q content).run fs = (.ok (), s) ∧
      fs.Aside q content FileSystem.fileMode s) ∨
    ∃ cause, (write q content).run fs = (.error cause, fs) := by
  rw [write, run_ask, FileSystem.perform_write]
  cases hWrite : fs.write q content with
  | error cause => exact Or.inr ⟨cause, rfl⟩
  | ok s => exact Or.inl ⟨s, rfl, FileSystem.aside_of_write hTree hVacant hWrite⟩

theorem pending_of_write (hTree : fs.WellFormed) (hVacant : ∀ st, fs.linkStatus q ≠ .ok st)
    (content : Bytes) : fs.Pending q ((write q content).run fs).2 := by
  obtain ⟨s, hRun, hAside⟩ | ⟨cause, hRun⟩ := run_write_cases hTree hVacant content
  · rw [hRun]
    exact hAside.pending
  · rw [hRun]
    exact .refl fs q

/-- The temporary file is moved into place, or stays where it is. -/
theorem within_rename (h : fs.Aside (p.temporarySibling tag) content mode s) :
    ((rename (p.temporarySibling tag) p).failing faults).Within
      (fs.Underway p tag content) (Lands fs p tag content mode) s := by
  have hHere := h.pending.underway content
  refine within_quiet (c := .rename (p.temporarySibling tag) p) rfl hHere ?_ ?_
  · intro _
    rw [FileSystem.perform_rename]
    cases hRename : s.rename (p.temporarySibling tag) p with
    | error cause => exact ⟨hHere, h.pending⟩
    | ok s' => exact ⟨Or.inr ⟨mode, h.rename hRename⟩, h.rename hRename⟩
  · intro fault _
    exact ⟨.error fault.cause, rfl, h.pending⟩

/-- The temporary file takes its permission bits, or keeps those that it has. -/
theorem within_setMode {Q : Except IoError Unit → FileSystem → Prop}
    (h : fs.Aside (p.temporarySibling tag) content mode s) (mode' : Nat)
    (hDone : ∀ s', fs.Aside (p.temporarySibling tag) content mode' s' → Q (.ok ()) s')
    (hFails : ∀ cause, Q (.error cause) s) :
    ((setMode (p.temporarySibling tag) mode').failing faults).Within
      (fs.Underway p tag content) Q s := by
  refine within_quiet (c := .setMode (p.temporarySibling tag) mode') rfl
    (h.pending.underway content) ?_ ?_
  · intro _
    obtain ⟨s', hMode, hAside⟩ := h.setMode mode'
    rw [FileSystem.perform_setMode, FileSystem.change_ok hMode]
    exact ⟨hAside.pending.underway content, hDone s' hAside⟩
  · intro fault _
    exact ⟨.error fault.cause, rfl, hFails fault.cause⟩

/-- What is left is removed, or that fails, too. -/
theorem within_remove {Q : Except IoError Unit → FileSystem → Prop}
    (hVacant : ∀ st, fs.linkStatus (p.temporarySibling tag) ≠ .ok st)
    (h : fs.Pending (p.temporarySibling tag) s) (hDone : ∀ reply, Q reply fs)
    (hFails : faults (.remove (p.temporarySibling tag)) ≠ none → ∀ cause, Q (.error cause) s) :
    ((remove (p.temporarySibling tag)).failing faults).Within (fs.Underway p tag content) Q s := by
  refine within_quiet (c := .remove (p.temporarySibling tag)) rfl (h.underway content) ?_ ?_
  · intro _
    rw [h.remove hVacant]
    exact ⟨(FileSystem.Pending.refl fs _).underway content, hDone _⟩
  · intro fault hFault
    refine ⟨.error fault.cause, rfl, hFails ?_ fault.cause⟩
    rw [hFault]
    exact Option.some_ne_none fault

/-- A temporary file is written and moved into place, or the attempt ends on the way. -/
theorem within_installTemporary (hTree : fs.WellFormed)
    (hVacant : ∀ st, fs.linkStatus (p.temporarySibling tag) ≠ .ok st) (mode? : Option Nat)
    (content : Bytes) :
    ((installTemporary (p.temporarySibling tag) p mode? content).failing faults).Within
      (fs.Underway p tag content) (Lands fs p tag content (mode?.getD FileSystem.fileMode)) fs := by
  have hStart := FileSystem.Pending.refl fs (p.temporarySibling tag)
  have hPart := fun size => pending_of_write hTree hVacant (content.take size)
  have hThere := hStart.underway content
  unfold installTemporary
  rw [failing_bind]
  refine Within.bind (within_write hThere (fun size => (hPart size).underway content) ?_ ?_ ?_)
  · intro reply s hRun
    obtain ⟨s', hRun', hAside⟩ | ⟨cause, hRun'⟩ := run_write_cases hTree hVacant content
    · obtain ⟨rfl, rfl⟩ := Prod.mk.inj (hRun.symm.trans hRun')
      cases mode? with
      | none => exact within_rename hAside
      | some mode =>
        simp only [failing_bind]
        exact Within.bind (within_setMode hAside mode (fun s' hAside' => within_rename hAside')
          fun cause => ⟨hAside.pending.underway content, hAside.pending⟩)
    · obtain ⟨rfl, rfl⟩ := Prod.mk.inj (hRun.symm.trans hRun')
      exact ⟨hThere, hStart⟩
  · intro cause
    exact ⟨hThere, hStart⟩
  · intro cause size
    exact ⟨(hPart size).underway content, hPart size⟩

/-- Where the attempt ends on the way the temporary file is removed, if that does not fail, too. -/
def Settles (faults : Call → Option Fault) (fs : FileSystem) (p : Path) (tag : Nat)
    (content : Bytes) (mode : Nat) (r : Except IoError Unit) (s : FileSystem) : Prop :=
  Lands fs p tag content mode r s ∧
    (r ≠ .ok () → faults (.remove (p.temporarySibling tag)) = none → s = fs)

theorem within_replaceVia (hTree : fs.WellFormed)
    (hVacant : ∀ st, fs.linkStatus (p.temporarySibling tag) ≠ .ok st) (mode? : Option Nat)
    (content : Bytes) :
    ((replaceVia (p.temporarySibling tag) p mode? content).failing faults).Within
      (fs.Underway p tag content)
      (Settles faults fs p tag content (mode?.getD FileSystem.fileMode)) fs := by
  rw [replaceVia, failing_bind]
  refine Within.bind ((within_installTemporary hTree hVacant mode? content).mono ?_)
  intro r s hUnderway hLands
  cases r with
  | ok done => exact ⟨hUnderway, hLands, fun hNot => absurd rfl hNot⟩
  | error cause =>
    have hPending : fs.Pending (p.temporarySibling tag) s := hLands
    simp only [failing_bind]
    have hStart := FileSystem.Pending.refl fs (p.temporarySibling tag)
    refine Within.bind (within_remove hVacant hPending (fun _ => ?_) (fun hFault _ => ?_))
    · exact ⟨hStart.underway content, hStart, fun _ _ => rfl⟩
    · exact ⟨hUnderway, hPending, fun _ hNone => absurd hNone hFault⟩

/-- The permission bits that a new file gets: those of the old one, or the usual ones where there is
none. If the disk denies that there is a file, the old ones are not known. -/
structure Inherits (faults : Call → Option Fault) (fs : FileSystem) (p : Path) (mode : Nat) :
    Prop where
  kept  : (∀ fault, faults (.status p) = some fault → fault.cause ≠ .noEntry) →
    ∀ st, fs.status p = .ok st → mode = st.mode
  usual : (∀ st, fs.status p ≠ .ok st) → mode = FileSystem.fileMode

theorem inherits_of_status {st : Status} (h : fs.status p = .ok st) :
    Inherits faults fs p st.mode where
  kept := fun _ st' hStatus => by rw [Except.ok.inj (hStatus.symm.trans h)]
  usual := fun hNone => absurd h (hNone st)

theorem inherits_of_none (h : ∀ st, fs.status p ≠ .ok st) :
    Inherits faults fs p FileSystem.fileMode where
  kept := fun _ st hStatus => absurd hStatus (h st)
  usual := fun _ => rfl

theorem exists_inherits (faults : Call → Option Fault) (fs : FileSystem) (p : Path) :
    ∃ mode, Inherits faults fs p mode := by
  cases hStatus : fs.status p with
  | ok st => exact ⟨st.mode, inherits_of_status hStatus⟩
  | error cause =>
    refine ⟨_, inherits_of_none fun st hOk => ?_⟩
    rw [hStatus] at hOk
    cases hOk

/-- A replacement settles: with the new file in its place, or with everything as it was. -/
theorem within_replace (hTree : fs.WellFormed)
    (hVacant : ∀ st, fs.linkStatus (p.temporarySibling tag) ≠ .ok st)
    (faults : Call → Option Fault) (content : Bytes) :
    ((replace tag p content).failing faults).Within (fs.Underway p tag content)
      (fun r s => ∃ mode, Inherits faults fs p mode ∧ Settles faults fs p tag content mode r s)
      fs := by
  have hStart := FileSystem.Pending.refl fs (p.temporarySibling tag)
  have hThere := hStart.underway content
  -- an error ends the replacement, unless it says that there is no file
  have hError : ∀ e, (e = .noEntry → Inherits faults fs p FileSystem.fileMode) →
      ((if e = .noEntry then replaceVia (p.temporarySibling tag) p none content
        else return .error e).failing faults).Within (fs.Underway p tag content)
        (fun r s => ∃ mode, Inherits faults fs p mode ∧ Settles faults fs p tag content mode r s)
        fs := by
    intro e hInherits
    split_ifs with hNone
    · refine (within_replaceVia hTree hVacant none content).mono fun r s _ hSettles => ?_
      exact ⟨_, hInherits hNone, hSettles⟩
    · obtain ⟨mode, hMode⟩ := exists_inherits faults fs p
      exact ⟨hThere, mode, hMode, hStart, fun _ _ => rfl⟩
  unfold replace
  rw [failing_bind]
  refine Within.bind (within_quiet (c := .status p) rfl hThere ?_ ?_)
  · intro _
    refine ⟨hThere, ?_⟩
    rw [FileSystem.perform_status]
    cases hStatus : fs.status p with
    | ok st =>
      refine (within_replaceVia hTree hVacant (some st.mode) content).mono fun r s _ hSettles => ?_
      exact ⟨_, inherits_of_status hStatus, hSettles⟩
    | error cause =>
      refine hError cause fun _ => inherits_of_none fun st hOk => ?_
      rw [hStatus] at hOk
      cases hOk
  · intro fault hFault
    refine ⟨.error fault.cause, rfl, hError fault.cause fun hNone => ?_⟩
    refine ⟨fun hTrue => absurd hNone (hTrue fault hFault), fun _ => rfl⟩

-- ---------------------------------------------------------------------------
-- All or nothing
-- ---------------------------------------------------------------------------

/-- The replacement has been effected: the path has the new content under the permission bits that
it had, no temporary file is left, and nothing else differs. -/
structure Effected (faults : Call → Option Fault) (tag : Nat) (p : Path) (content : Bytes)
    (fs s : FileSystem) : Prop where
  content : s.read p = .ok content
  kept    : (∀ fault, faults (.status p) = some fault → fault.cause ≠ .noEntry) →
    ∀ st, fs.status p = .ok st → s.status p = .ok ⟨.file, st.mode⟩
  usual   : (∀ st, fs.status p ≠ .ok st) → s.status p = .ok ⟨.file, FileSystem.fileMode⟩
  vacant  : ∀ st, s.linkStatus (p.temporarySibling tag) ≠ .ok st
  rest    : ∀ l, s.lookup? l ≠ fs.lookup? l → fs.locate false p = .ok l

/-- The replacement has been reverted: the path has the content and the status that it had, and
only the temporary file may differ. If that could be removed, nothing does. -/
structure Reverted (faults : Call → Option Fault) (tag : Nat) (p : Path) (fs s : FileSystem) :
    Prop where
  same    : SameAt p fs s
  rest    : ∀ l, s.lookup? l ≠ fs.lookup? l →
    fs.locate false (p.temporarySibling tag) = .ok l
  removed : faults (.remove (p.temporarySibling tag)) = none → s = fs

/-- **A replacement is effected as a whole or not at all**, whichever of its calls fail. At every
moment the old content is read at the path, or the new one. -/
theorem replace_all_or_nothing (hTree : fs.WellFormed)
    (hVacant : ∀ st, fs.linkStatus (p.temporarySibling tag) ≠ .ok st)
    (hPlain : ∀ st, fs.linkStatus p = .ok st → st.kind = .file)
    (faults : Call → Option Fault) (content : Bytes) :
    (∀ s, ((replace tag p content).failing faults).Passes fs s →
      ((s.read p).toOption = (fs.read p).toOption ∨ s.read p = .ok content) ∧
      ∀ l, s.lookup? l ≠ fs.lookup? l →
        fs.locate false p = .ok l ∨ fs.locate false (p.temporarySibling tag) = .ok l) ∧
    match ((replace tag p content).failing faults).run fs with
    | (.ok (), s) => Effected faults tag p content fs s
    | (.error _, s) => Reverted faults tag p fs s := by
  obtain ⟨hPasses, mode, hInherits, hLands, hRemoved⟩ :=
    (within_replace hTree hVacant faults content).sound
  refine ⟨fun s hPass => ?_, ?_⟩
  · rcases hPasses s hPass with hPending | ⟨mode, hPlaced⟩
    · exact ⟨Or.inl (hPending.sameAt hTree hPlain).content,
        fun l hDiffers => Or.inr (hPending.locate_of_ne hDiffers)⟩
    · obtain ⟨hRead, -, -, hRest⟩ := hPlaced.seen hPlain
      exact ⟨Or.inr hRead, fun l hDiffers => Or.inl (hRest l hDiffers)⟩
  · generalize ((replace tag p content).failing faults).run fs = x at hLands hRemoved
    obtain ⟨reply, s⟩ := x
    cases reply with
    | ok done =>
      obtain ⟨hRead, hStatus, hGone, hRest⟩ := FileSystem.Placed.seen hLands hPlain
      refine ⟨hRead, fun hTrue st hOld => ?_, fun hNone => ?_, hGone, hRest⟩
      · rw [hStatus, hInherits.kept hTrue st hOld]
      · rw [hStatus, hInherits.usual hNone]
    | error cause =>
      have hPending : fs.Pending (p.temporarySibling tag) s := hLands
      exact ⟨hPending.sameAt hTree hPlain, fun l hDiffers => hPending.locate_of_ne hDiffers,
        hRemoved fun hOk => by cases hOk⟩

/-- A script that may be run. -/
def scriptTree : FileSystem := ⟨[(["run.sh"], .file [104, 105] 0o755)], []⟩

/-- A disk on which nothing is moved. -/
def immovable : Call → Option Fault
  | .rename _ _ => some (.refused (.system 5))
  | _ => none

/-- Where the new content cannot be moved into place everything is as it was, and where it can the
script may be run as before. -/
theorem replace_all_or_nothing_script :
    scriptTree.WellFormed ∧
      (∀ st, scriptTree.linkStatus (Path.temporarySibling ⟨"run.sh"⟩ 0) ≠ .ok st) ∧
      (∀ st, scriptTree.linkStatus ⟨"run.sh"⟩ = .ok st → st.kind = .file) ∧
      ((replace 0 ⟨"run.sh"⟩ [104]).failing immovable).run scriptTree =
        (.error (.system 5), scriptTree) ∧
      (((replace 0 ⟨"run.sh"⟩ [104]).failing fun _ => none).run scriptTree).2.status
        ⟨"run.sh"⟩ = .ok ⟨.file, 0o755⟩ := by
  have hTree : scriptTree.WellFormed := .of_entries (by decide) (by decide)
  have hSpare : scriptTree.linkStatus (Path.temporarySibling ⟨"run.sh"⟩ 0) = .error .noEntry := by
    decide
  have hVacant : ∀ st, scriptTree.linkStatus (Path.temporarySibling ⟨"run.sh"⟩ 0) ≠ .ok st := by
    intro st
    rw [hSpare]
    exact fun hOk => by cases hOk
  have hOwn : scriptTree.linkStatus ⟨"run.sh"⟩ = .ok ⟨.file, 0o755⟩ := by decide
  have hPlain : ∀ st, scriptTree.linkStatus ⟨"run.sh"⟩ = .ok st → st.kind = .file := by
    intro st hStatus
    rw [← Except.ok.inj (hOwn.symm.trans hStatus)]
  refine ⟨hTree, hVacant, hPlain, ?_, ?_⟩
  · have hReply : (((replace 0 ⟨"run.sh"⟩ [104]).failing immovable).run scriptTree).1 =
        .error (.system 5) := by decide
    have hEnd := (replace_all_or_nothing hTree hVacant hPlain immovable [104]).2
    generalize ((replace 0 ⟨"run.sh"⟩ [104]).failing immovable).run scriptTree = x
      at hReply hEnd ⊢
    obtain ⟨reply, s⟩ := x
    obtain rfl : reply = .error (.system 5) := hReply
    rw [hEnd.removed rfl]
  · have hReply : (((replace 0 ⟨"run.sh"⟩ [104]).failing fun _ => none).run scriptTree).1 =
        .ok () := by decide
    have hOld : scriptTree.status ⟨"run.sh"⟩ = .ok ⟨.file, 0o755⟩ := by decide
    have hEnd := (replace_all_or_nothing hTree hVacant hPlain (fun _ => none) [104]).2
    generalize ((replace 0 ⟨"run.sh"⟩ [104]).failing fun _ => none).run scriptTree = x
      at hReply hEnd ⊢
    obtain ⟨reply, s⟩ := x
    obtain rfl : reply = .ok () := hReply
    exact hEnd.kept (fun fault hFault => by cases hFault) _ hOld

end Program

end LicenseAudit
