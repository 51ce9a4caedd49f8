import LicenseAudit.Proofs.FileSystem.Written
import LicenseAudit.Proofs.Program.Atomic

/-!
# Replacements that fail

A replacement that fails has not touched what was there. It may leave its temporary file behind, but
only if that cannot be removed after something else has failed. If the removal is all that fails, no
temporary file was written that it could leave.

* `Program.Withdrawn` — what is left of a replacement that has failed;
* `Program.Spared` — the same at a file that is no link, with all that follows;
* `Program.SameBeside` — file systems that differ at most in the own entry of a path, and in its
  temporary file.

## Results

* `failing_replace_cases` — a replacement installs its content or is withdrawn.
* `Withdrawn.untouched` — what can be read stays as it was where a replacement is withdrawn.
* `run_failing_replaceVia` — a replacement, by how the attempt to install its file ends.
* `eq_of_only_remove` — where nothing fails but the removal.
* `replace_spares` — a replacement that fails spares everything.
-/

namespace LicenseAudit

variable {fs s : FileSystem} {p q : Path} {old content : Bytes} {tag : Nat}
  {faults : Call → Option Fault} {cause : IoError}

/-- What was there stays there, also beside a temporary file. -/
theorem FileSystem.Pending.lookup?_eq (h : fs.Pending q s) {l : Location} {e : Entry}
    (hEntry : fs.lookup? l = some e) : s.lookup? l = some e := by
  rcases h with rfl | ⟨part, mode, dir, m, -, -, hVacant, rfl⟩
  · exact hEntry
  · have hOther : l ≠ m :: dir := by
      rintro rfl
      rw [hVacant] at hEntry
      cases hEntry
    rw [lookup?_put fs (List.cons_ne_nil m dir), if_neg hOther, hEntry]

theorem FileSystem.Pending.workingDirectory (h : fs.Pending q s) :
    s.workingDirectory = fs.workingDirectory := by
  rcases h with rfl | ⟨part, mode, dir, m, -, -, -, rfl⟩ <;> rfl

/-- A path that led to something leads there still, also beside a temporary file. -/
theorem FileSystem.Pending.find (h : fs.Pending q s) {followLast : Bool} {r : Path} {l : Location}
    {e : Entry} (hFind : fs.find followLast r = .ok (l, e)) : s.find followLast r = .ok (l, e) := by
  obtain ⟨hLocate, hEntry⟩ := find_eq_ok_iff.mp hFind
  have hKeeps : Keeps fs s := ⟨h.workingDirectory, fun hStands _ => h.lookup?_eq hStands⟩
  have hSame := h.lookup?_eq hEntry
  exact find_eq_ok_iff.mpr ⟨locate_keeps hKeeps (Or.inl (hSame.trans hEntry.symm)) hLocate, hSame⟩

/-- What is placed where a file was read is installed there. -/
theorem FileSystem.Placed.installed {mode : Nat} (h : fs.Placed p tag content mode s)
    (hTree : fs.WellFormed) (hRead : fs.read p = .ok old) : fs.Installed p content s := by
  obtain ⟨dir, n, hSeat, hFits, -, -, rfl⟩ := h
  obtain ⟨d, m, hSeat', -, hFile⟩ := exists_seat_of_read hTree hRead
  obtain ⟨rfl, rfl⟩ := hSeat.unique hSeat'
  have hLookup := lookup?_put fs (List.cons_ne_nil n dir) (.file content mode)
  have hElsewhere : ∀ l, l ≠ n :: dir →
      (fs.put (n :: dir) (.file content mode)).lookup? l = fs.lookup? l := by
    intro l hPlace
    rw [hLookup, if_neg hPlace]
  exact ⟨dir, n, mode, hSeat.keeps (keepsWays_of_elsewhere hFile rfl hElsewhere), hFits,
    hFile.lookup?_ne_none, (hLookup _).trans (if_pos rfl), hElsewhere⟩

namespace Program

-- ---------------------------------------------------------------------------
-- Replacements that are withdrawn
-- ---------------------------------------------------------------------------

/-- The replacement has been withdrawn: nothing differs, or its temporary file is left, and could
not be removed. -/
structure Withdrawn (faults : Call → Option Fault) (tag : Nat) (p : Path) (fs s : FileSystem) :
    Prop where
  pending : fs.Pending (p.temporarySibling tag) s
  removed : faults (.remove (p.temporarySibling tag)) = none → s = fs

theorem Withdrawn.refl (faults : Call → Option Fault) (tag : Nat) (p : Path) (fs : FileSystem) :
    Withdrawn faults tag p fs fs :=
  ⟨.refl fs _, fun _ => rfl⟩

/-- What can be read stays as it was. -/
theorem Withdrawn.untouched (h : Withdrawn faults tag p fs s) (hTree : fs.WellFormed)
    (hRead : fs.read q = .ok old) : FileSystem.Untouched q fs s := by
  refine ⟨?_, ?_⟩
  · obtain ⟨dir, n, hSeat, hFits, hFile⟩ := FileSystem.exists_seat_of_read hTree hRead
    obtain ⟨e, hEntry⟩ := Option.ne_none_iff_exists'.mp hFile.lookup?_ne_none
    have hFind : fs.find false q = .ok (n :: dir, e) := hSeat.find hFits nofun hEntry
    rw [hFind, h.pending.find hFind]
  · obtain ⟨l, mode, hFind⟩ := FileSystem.find_of_read hRead
    rw [FileSystem.read, FileSystem.read, hFind, h.pending.find hFind]

/-- **A replacement installs its content or is withdrawn**, whichever of its calls fail. -/
theorem failing_replace_cases (hTree : fs.WellFormed) (hRead : fs.read p = .ok old)
    (hVacant : ∀ st, fs.linkStatus (p.temporarySibling tag) ≠ .ok st)
    (faults : Call → Option Fault) (content : Bytes) :
    (∃ s, ((replace tag p content).failing faults).run fs = (.ok (), s) ∧
      fs.Installed p content s) ∨
    ∃ cause s, ((replace tag p content).failing faults).run fs = (.error cause, s) ∧
      Withdrawn faults tag p fs s := by
  obtain ⟨mode, -, hLands, hRemoved⟩ := (within_replace hTree hVacant faults content).sound.2
  generalize ((replace tag p content).failing faults).run fs = x at hLands hRemoved
  obtain ⟨reply, s⟩ := x
  cases reply with
  | ok done => exact Or.inl ⟨s, rfl, FileSystem.Placed.installed hLands hTree hRead⟩
  | error cause => exact Or.inr ⟨cause, s, rfl, hLands, hRemoved nofun⟩

-- ---------------------------------------------------------------------------
-- Replacements that spare everything
-- ---------------------------------------------------------------------------

/-- Everything that was there is as it was. A temporary file is left only if its removal fails after
another call has failed, so that nothing at all differs where one call fails at most. -/
structure Spared (faults : Call → Option Fault) (tag : Nat) (p : Path) (fs s : FileSystem) : Prop
    extends Reverted faults tag p fs s where
  others : ∀ l e, fs.lookup? l = some e → s.lookup? l = some e
  single : (∃ c, ∀ c', c' ≠ c → faults c' = none) → s = fs

theorem Spared.refl (faults : Call → Option Fault) (tag : Nat) (p : Path) (fs : FileSystem) :
    Spared faults tag p fs fs where
  same    := .refl p fs
  rest    := fun _ hDiffers => absurd rfl hDiffers
  removed := fun _ => rfl
  others  := fun _ _ hEntry => hEntry
  single  := fun _ => rfl

/-- The attempt to install a temporary file does not remove it. -/
theorem only_installTemporary (q p : Path) (mode? : Option Nat) (content : Bytes) :
    (installTemporary q p mode? content).Only (· ≠ .remove q) := by
  have hRename : (rename q p).Only (· ≠ .remove q) := only_ask nofun
  refine Only.bind (only_ask nofun) fun written => ?_
  cases written with
  | error cause => exact only_pure _
  | ok done =>
    cases mode? with
    | none => exact hRename
    | some mode =>
      refine Only.bind (only_ask nofun) fun set => ?_
      cases set with
      | error cause => exact only_pure _
      | ok done => exact hRename

theorem run_failing_replaceVia (q p : Path) (mode? : Option Nat) (content : Bytes) :
    ((replaceVia q p mode? content).failing faults).run fs =
      match ((installTemporary q p mode? content).failing faults).run fs with
      | (.ok (), s) => (.ok (), s)
      | (.error cause, s) => (.error cause, (((remove q).failing faults).run s).2) := by
  rw [replaceVia, failing_bind, run_bind]
  generalize ((installTemporary q p mode? content).failing faults).run fs = x
  obtain ⟨reply, s⟩ := x
  cases reply with
  | ok done => rfl
  | error cause =>
    simp only [failing_bind, run_bind]
    rfl

theorem run_failing_remove_snd (h : fs.remove q = .error cause) :
    (((remove q).failing faults).run fs).2 = fs := by
  rw [remove, failing_ask]
  cases faults (.remove q) with
  | none =>
    show (fs.perform (.remove q)).2 = fs
    rw [FileSystem.perform_remove, FileSystem.change_error h]
  | some fault => cases fault <;> rfl

/-- If nothing fails but the removal, a replacement that does not succeed was refused its temporary
file, and there is nothing to remove. -/
theorem eq_of_only_remove (hTree : fs.WellFormed) (hRead : fs.read p = .ok old)
    (hVacant : ∀ st, fs.linkStatus (p.temporarySibling tag) ≠ .ok st)
    (hOnly : ∀ c, c ≠ .remove (p.temporarySibling tag) → faults c = none)
    (hError : ((replace tag p content).failing faults).run fs = (.error cause, s)) : s = fs := by
  obtain ⟨dir, n, hSeat, hFits, hFile⟩ := FileSystem.exists_seat_of_read hTree hRead
  obtain ⟨l, mode, hFind⟩ := FileSystem.find_of_read hRead
  have hStatus : fs.status p = .ok ⟨.file, mode⟩ := by
    rw [FileSystem.status, hFind]
    rfl
  have hAsk : (status p).failing faults = status p := by
    refine failing_of_only (only_ask (hOnly _ ?_))
    intro hSame
    cases hSame
  have hInstall := fun mode? => failing_of_only
    ((only_installTemporary (p.temporarySibling tag) p mode? content).mono hOnly)
  rw [replace, failing_bind, hAsk, run_bind, run_status, hStatus] at hError
  simp only [run_failing_replaceVia, hInstall] at hError
  cases hRefusal : (p.temporarySibling tag).refusal? (temporaryName n tag) with
  | some refusal =>
    rw [run_installTemporary_of_refusal hSeat hRefusal] at hError
    rw [← (Prod.mk.inj hError).2]
    exact run_failing_remove_snd ((hSeat.temporarySibling tag).remove_of_refusal hRefusal)
  | none =>
    have hSpare := (hSeat.temporarySibling tag).lookup?_eq_none hRefusal hVacant
    obtain ⟨hDone, -⟩ := installed_of_fits hSeat hFits hFile hRefusal hSpare mode content
    generalize (installTemporary (p.temporarySibling tag) p (some mode) content).run fs = x
      at hDone hError
    obtain ⟨reply, s'⟩ := x
    obtain rfl : reply = .ok () := hDone
    cases hError

/-- **A replacement that fails spares everything**, whichever of its calls fail. -/
theorem replace_spares (hTree : fs.WellFormed) (hRead : fs.read p = .ok old)
    (hVacant : ∀ st, fs.linkStatus (p.temporarySibling tag) ≠ .ok st)
    (hPlain : ∀ st, fs.linkStatus p = .ok st → st.kind ≠ .link)
    (hError : ((replace tag p content).failing faults).run fs = (.error cause, s)) :
    Spared faults tag p fs s := by
  -- what can be read is a file
  obtain ⟨dir, n, mode, hSeat, hFits, hFile⟩ := FileSystem.seat_of_read hTree hRead hPlain
  have hKind : ∀ st, fs.linkStatus p = .ok st → st.kind = .file := by
    intro st hStatus
    rw [← Except.ok.inj ((hSeat.linkStatus hFits hFile).symm.trans hStatus)]
    rfl
  have hWithdrawn : Withdrawn faults tag p fs s := by
    obtain ⟨s', hRun, -⟩ | ⟨cause', s', hRun, hWithdrawn⟩ :=
      failing_replace_cases hTree hRead hVacant faults content
    · cases hError.symm.trans hRun
    · obtain ⟨-, rfl⟩ := Prod.mk.inj (hError.symm.trans hRun)
      exact hWithdrawn
  obtain ⟨hPending, hRemoved⟩ := hWithdrawn
  refine ⟨⟨hPending.sameAt hTree hKind, fun l => hPending.locate_of_ne, hRemoved⟩,
    fun l e => hPending.lookup?_eq, ?_⟩
  rintro ⟨c, hOnly⟩
  by_cases hRemoval : c = .remove (p.temporarySibling tag)
  · subst hRemoval
    exact eq_of_only_remove hTree hRead hVacant hOnly hError
  · exact hRemoved (hOnly _ (Ne.symm hRemoval))

-- ---------------------------------------------------------------------------
-- Files beside a replacement
-- ---------------------------------------------------------------------------

/-- The file systems differ at most in what the path itself stands for, links not followed, and in
the temporary file of the path, if that could not be removed. -/
structure SameBeside (faults : Call → Option Fault) (tag : Nat) (p : Path) (fs s : FileSystem) :
    Prop where
  start   : s.workingDirectory = fs.workingDirectory
  entries : ∀ l, s.lookup? l ≠ fs.lookup? l → fs.locate false p = .ok l ∨
    fs.locate false (p.temporarySibling tag) = .ok l ∧
      faults (.remove (p.temporarySibling tag)) ≠ none

theorem Withdrawn.sameBeside (h : Withdrawn faults tag p fs s) : SameBeside faults tag p fs s where
  start := h.pending.workingDirectory
  entries := by
    intro l hDiffers
    refine Or.inr ⟨h.pending.locate_of_ne hDiffers, fun hNone => hDiffers ?_⟩
    rw [h.removed hNone]

theorem sameBeside_of_installed (h : fs.Installed p content s)
    (hStart : s.workingDirectory = fs.workingDirectory) : SameBeside faults tag p fs s where
  start := hStart
  entries := by
    obtain ⟨dir, n, hSeat, -, hFits, hElsewhere⟩ := h.exists_seat hStart
    intro l hDiffers
    by_cases hPlace : l = n :: dir
    · rw [hPlace]
      exact Or.inl (hSeat.locate_own hFits)
    · exact absurd (hElsewhere l hPlace) hDiffers

end Program

end LicenseAudit
