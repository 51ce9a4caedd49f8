import LicenseAudit.Proofs.Audit.Check

/-!
# The three classes of a check

A check puts every eligible file into one class: it lacks the marker, it cannot be read, or it is in
order. Files are told apart by what the disk answers only, so that neither the number of workers nor
the order of their steps shows in the outcome.

* `Engine.Lacks`, `Engine.Carries`, `Unreadable` — the classes, by what reading a file is answered;
* `Engine.Classifies` — an outcome that puts every file into the class that it belongs to.

## Results

* `Reports.classifies` — an outcome that reports the answers of the files classifies the files.
* `check_classifies` — a check classifies the eligible files or fails with their walk, and does the
  same with any number of workers and under every schedule.
-/

namespace LicenseAudit

/-- The file cannot be read. -/
def Unreadable (reply : Except IoError Bytes) : Prop :=
  ∃ cause, reply = .error cause

namespace Engine

variable {e : Engine} {fs : FileSystem} {refusals : Call → Option IoError} {root : Path}
  {files : List Path} {p : Path} {reply : Except IoError Bytes}
  {told : Path → Except IoError Bytes} {c : CheckOutcome}

-- ---------------------------------------------------------------------------
-- Classes
-- ---------------------------------------------------------------------------

/-- The file can be read and the marker stands nowhere in it. -/
def Lacks (e : Engine) (reply : Except IoError Bytes) : Prop :=
  ∃ content, reply = .ok content ∧ ¬ Text.encode e.marker.toList <:+: content

/-- The file can be read and the marker stands somewhere in it. -/
def Carries (e : Engine) (reply : Except IoError Bytes) : Prop :=
  ∃ content, reply = .ok content ∧ Text.encode e.marker.toList <:+: content

theorem verdict_eq_false_iff : e.verdict p reply = .ok false ↔ e.Lacks reply := by
  cases reply with
  | error cause => simp [verdict, Lacks]
  | ok content => simp [verdict, Lacks, carries, ← Text.occursIn_iff]

theorem verdict_eq_true_iff : e.verdict p reply = .ok true ↔ e.Carries reply := by
  cases reply with
  | error cause => simp [verdict, Carries]
  | ok content => simp [verdict, Carries, carries, ← Text.occursIn_iff]

theorem Lacks.not_carries (h : e.Lacks reply) : ¬ e.Carries reply := by
  rintro ⟨content, hRead, hMarker⟩
  obtain ⟨content', hRead', hNone⟩ := h
  obtain rfl := Except.ok.inj (hRead.symm.trans hRead')
  exact hNone hMarker

theorem Lacks.not_unreadable (h : e.Lacks reply) : ¬ Unreadable reply := by
  rintro ⟨cause, hRead⟩
  obtain ⟨content, hRead', -⟩ := h
  cases hRead.symm.trans hRead'

/-- The outcome puts every file into one class, the one it belongs to by what reading it is
answered: the files that lack the marker are listed, those that cannot be read are listed with the
cause, and the others are not listed. Nothing else is listed. No two files are spellings of one
path, and both lists are in strict order, so that no file is in a class twice. -/
structure Classifies (e : Engine) (told : Path → Except IoError Bytes) (files : List Path)
    (c : CheckOutcome) : Prop where
  different : files.Pairwise fun p q => p.same q = false
  classes   : ∀ p ∈ files,
    p ∈ c.missing ∧ p ∉ c.failures.map FileError.path ∧ e.Lacks (told p) ∨
    p ∉ c.missing ∧ p ∈ c.failures.map FileError.path ∧ Unreadable (told p) ∨
    p ∉ c.missing ∧ p ∉ c.failures.map FileError.path ∧ e.Carries (told p)
  missing   : ∀ p ∈ c.missing, p ∈ files
  failures  : ∀ x ∈ c.failures, x.path ∈ files ∧
    ∃ cause, told x.path = .error cause ∧ x = .read x.path cause
  ordered   : (c.missing.Pairwise fun p q => p.key < q.key) ∧
    c.failures.Pairwise fun x y => x.path.key < y.path.key

theorem Classifies.mem_missing_iff (h : e.Classifies told files c) (hFile : p ∈ files) :
    p ∈ c.missing ↔ e.Lacks (told p) := by
  rcases h.classes p hFile with ⟨hMem, -, hLacks⟩ | ⟨hOther, -, hUnreadable⟩ | ⟨hOther, -, hCarries⟩
  · exact iff_of_true hMem hLacks
  · exact iff_of_false hOther fun hLacks => hLacks.not_unreadable hUnreadable
  · exact iff_of_false hOther fun hLacks => hLacks.not_carries hCarries

/-- The paths of the failures are those of the files that cannot be read. -/
theorem Reports.mem_failed_iff (h : e.Reports told files c) :
    p ∈ c.failures.map FileError.path ↔ p ∈ files ∧ Unreadable (told p) := by
  rw [List.mem_map]
  constructor
  · rintro ⟨x, hFailure, rfl⟩
    obtain ⟨q, hFile, hVerdict⟩ := (h.failures x).mp hFailure
    obtain ⟨cause, hRead, rfl⟩ := verdict_eq_error_iff.mp hVerdict
    exact ⟨hFile, cause, hRead⟩
  · rintro ⟨hFile, cause, hRead⟩
    have hVerdict : e.verdict p (told p) = .error (.read p cause) :=
      verdict_eq_error_iff.mpr ⟨cause, hRead, rfl⟩
    exact ⟨.read p cause, (h.failures _).mpr ⟨p, hFile, hVerdict⟩, rfl⟩

/-- An outcome that reports the answers of different files classifies the files. -/
theorem Reports.classifies (h : e.Reports told files c)
    (hDiffer : files.Pairwise fun p q => p.key ≠ q.key) : e.Classifies told files c where
  different := hDiffer.imp fun hKeys => Path.same_eq_false_iff.mpr hKeys
  classes := by
    intro p hFile
    have hMissing : p ∈ c.missing ↔ e.Lacks (told p) := by
      rw [h.missing, verdict_eq_false_iff, and_iff_right hFile]
    have hFailed : p ∈ c.failures.map FileError.path ↔ Unreadable (told p) := by
      rw [h.mem_failed_iff, and_iff_right hFile]
    rw [hMissing, hFailed]
    cases hRead : told p with
    | error cause => simp [Lacks, Carries, Unreadable]
    | ok content =>
      simp only [Lacks, Carries, Unreadable]
      by_cases hMarker : Text.encode e.marker.toList <:+: content <;> simp [hMarker]
  missing := fun p hMem => ((h.missing p).mp hMem).1
  failures := by
    intro x hMem
    obtain ⟨p, hFile, hVerdict⟩ := (h.failures x).mp hMem
    obtain ⟨cause, hRead, rfl⟩ := verdict_eq_error_iff.mp hVerdict
    exact ⟨hFile, cause, hRead, rfl⟩
  ordered := ⟨h.increasing, h.ordered⟩

-- ---------------------------------------------------------------------------
-- A check under every schedule
-- ---------------------------------------------------------------------------

/-- The same engine with another number of workers. -/
def withJobs (e : Engine) (jobs : Nat) : Engine := { e with jobs := jobs }

/-- **Every eligible file is classified once.** Let the disk refuse some calls whenever they are
made, such as reading a file for lack of permission. A check fails only if the walk for the eligible
files does. Otherwise there is one outcome that the check ends with, whatever the number of workers
and the schedule, and it puts every eligible file into one of the three classes. Nothing on the disk
changes. -/
theorem check_classifies (hTree : fs.WellFormed) (refusals : Call → Option IoError) (e : Engine)
    (root : Path) :
    (∃ failure, (((e.eligible root).refusing refusals).run fs).1 = .error failure ∧
      ∀ jobs schedule, (((e.withJobs jobs).check root schedule).refusing refusals).run fs =
        (.error (.walk failure), fs)) ∨
    ∃ files c, (((e.eligible root).refusing refusals).run fs).1 = .ok files ∧
      e.Classifies (fun p => fs.reply refusals (.read p)) files c ∧
      ∀ jobs schedule, (((e.withJobs jobs).check root schedule).refusing refusals).run fs =
        (.ok c, fs) := by
  cases hWalk : (((e.eligible root).refusing refusals).run fs).1 with
  | error failure =>
    refine Or.inl ⟨failure, rfl, fun jobs schedule => ?_⟩
    exact check_of_walk_error (e := e.withJobs jobs) hWalk schedule
  | ok files =>
    have hDiffer := eligible_differ hTree hWalk
    obtain ⟨c, -, hReports⟩ := exists_check hDiffer hWalk []
    refine Or.inr ⟨files, c, rfl, hReports.classifies hDiffer, fun jobs schedule => ?_⟩
    -- the answers of the files do not depend on the number of workers
    obtain ⟨c', hRun, hReports'⟩ := exists_check (e := e.withJobs jobs) hDiffer hWalk schedule
    rw [hRun, CheckOutcome.Sorts.unique hReports' hReports]

-- ---------------------------------------------------------------------------
-- A tree with a locked file
-- ---------------------------------------------------------------------------

/-- An engine that looks for a letter, with two workers. -/
def letterEngine : Engine :=
  ⟨(⟨"L", [], []⟩ : Registry).source, "L", 2, ⟨⟨"directory", []⟩, ⟨"file", []⟩⟩, 7⟩

/-- A tree with two files. -/
def twoFiles (first second : Bytes) : FileSystem :=
  ⟨[(["a.rs"], .file first 0o644), (["b.rs"], .file second 0o644)], []⟩

variable (first second : Bytes)

theorem wellFormed_twoFiles : (twoFiles first second).WellFormed := by
  have hEntry : ∀ {n : String} {dir : Location} {entry : Entry},
      (n :: dir, entry) ∈ (twoFiles first second).entries →
        (n = "a.rs" ∨ n = "b.rs") ∧ dir = [] := by
    intro n dir entry hMem
    have hSame : ((n = "a.rs" ∧ dir = []) ∧ entry = .file first 0o644) ∨
        ((n = "b.rs" ∧ dir = []) ∧ entry = .file second 0o644) := by
      simpa [twoFiles] using hMem
    exact hSame.elim (fun h => ⟨Or.inl h.1.1, h.1.2⟩) fun h => ⟨Or.inr h.1.1, h.1.2⟩
  refine ⟨by simp [twoFiles], fun hMem => ?_, fun hMem => ?_⟩
  · rcases (hEntry hMem).1 with rfl | rfl <;>
      exact ⟨by decide, by decide, by decide, by decide⟩
  · rw [(hEntry hMem).2]
    rfl

theorem list_twoFiles :
    (twoFiles first second).list ⟨"."⟩ = .ok [("a.rs", .file), ("b.rs", .file)] := by
  have hFind : (twoFiles first second).find true ⟨"."⟩ = .ok ([], .directory 0o755) := rfl
  have hChildren : (twoFiles first second).children [] =
      [("a.rs", .file first 0o644), ("b.rs", .file second 0o644)] := by
    refine eq_of_increasing
      (FileSystem.increasing_children (wellFormed_twoFiles first second) []) ?_ ?_
    · have hBefore : "a.rs" < "b.rs" := by decide
      simpa using hBefore
    · rintro ⟨n, entry⟩
      rw [FileSystem.mem_children]
      simp [twoFiles]
  rw [FileSystem.list, hFind]
  simp [hChildren, bind, Except.bind, Entry.status]

theorem eligible_twoFiles :
    ((letterEngine.eligible ⟨"."⟩).run (twoFiles first second)).1 =
      .ok [⟨"./a.rs"⟩, ⟨"./b.rs"⟩] := by
  have hStatus : (twoFiles first second).linkStatus ⟨"."⟩ = .ok ⟨.directory, 0o755⟩ := rfl
  have hEnters : (letterEngine.selection.descends ⟨"."⟩).run (twoFiles first second) =
      (true, twoFiles first second) := rfl
  have hFirst : ((letterEngine.selection.includes ⟨"./a.rs"⟩).run
      (twoFiles first second)).1 = true := rfl
  have hSecond : ((letterEngine.selection.includes ⟨"./b.rs"⟩).run
      (twoFiles first second)).1 = true := rfl
  have hStay : ((Walk.report letterEngine.selection ⟨"./a.rs"⟩).run (twoFiles first second)).2 =
      twoFiles first second :=
    Program.run_snd_of_readOnly (Walk.report_surveys _ _).readOnly _
  have hJoinFirst : (⟨"."⟩ : Path).join ⟨"a.rs"⟩ = ⟨"./a.rs"⟩ := by decide
  have hJoinSecond : (⟨"."⟩ : Path).join ⟨"b.rs"⟩ = ⟨"./b.rs"⟩ := by decide
  have hInside : ((Walk.inside letterEngine.selection pathLimit ⟨"."⟩).run
      (twoFiles first second)).1 = .ok [⟨"./a.rs"⟩, ⟨"./b.rs"⟩] := by
    rw [show pathLimit = 4095 + 1 from rfl, Walk.inside]
    simp [Program.run_list, list_twoFiles, Walk.visitAll, hJoinFirst, hJoinSecond, Walk.report_run,
      hFirst, hSecond, hStay]
  simp [eligible, walk, Walk.fromRoot, Program.run_linkStatus, hStatus, hEnters, hInside]

/-- The second file may not be read. -/
def lockedFile (c : Call) : Option IoError :=
  if c = .read ⟨"./b.rs"⟩ then some (.system 13) else none

theorem eligible_lockedFile :
    (((letterEngine.eligible ⟨"."⟩).refusing lockedFile).run (twoFiles first second)).1 =
      .ok [⟨"./a.rs"⟩, ⟨"./b.rs"⟩] := by
  rw [eligible_refusing, eligible_twoFiles]
  -- the walk does not read the file
  intro c hSurveys
  refine if_neg ?_
  rintro rfl
  cases hSurveys

/-- The first file lacks the letter. The second one carries it and may not be read, so that it
fails. -/
theorem check_classifies_locked_file :
    ∃ c, letterEngine.Classifies
        (fun p => (twoFiles [0x41] [0x4C]).reply lockedFile (.read p))
        [⟨"./a.rs"⟩, ⟨"./b.rs"⟩] c ∧
      ⟨"./a.rs"⟩ ∈ c.missing ∧ ⟨"./b.rs"⟩ ∈ c.failures.map FileError.path ∧
      ∀ jobs schedule,
        (((letterEngine.withJobs jobs).check ⟨"."⟩ schedule).refusing lockedFile).run
          (twoFiles [0x41] [0x4C]) = (.ok c, twoFiles [0x41] [0x4C]) := by
  rcases check_classifies (wellFormed_twoFiles [0x41] [0x4C]) lockedFile letterEngine ⟨"."⟩ with
    ⟨failure, hWalk, -⟩ | ⟨files, c, hWalk, hClasses, hRuns⟩
  · rw [eligible_lockedFile] at hWalk
    cases hWalk
  · rw [eligible_lockedFile] at hWalk
    obtain rfl := Except.ok.inj hWalk
    refine ⟨c, hClasses, ?_, ?_, hRuns⟩
    · exact (hClasses.mem_missing_iff (List.mem_cons_self ..)).mpr
        (verdict_eq_false_iff (p := ⟨"./a.rs"⟩).mp rfl)
    · rcases hClasses.classes ⟨"./b.rs"⟩ (List.mem_cons_of_mem _ (List.mem_cons_self ..)) with
        ⟨-, -, content, hRead, -⟩ | ⟨-, hFailed, -⟩ | ⟨-, -, content, hRead, -⟩
      · cases hRead
      · exact hFailed
      · cases hRead

end Engine

end LicenseAudit
