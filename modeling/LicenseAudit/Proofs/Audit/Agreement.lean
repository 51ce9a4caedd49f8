import LicenseAudit.Proofs.Audit.Classes
import LicenseAudit.Proofs.Header.Marker

/-!
# What a check reports is what a repair changes

A check reads every file that a walk finds, and a repair of one file asks for its header before it
reads the file. Both must come to the same conclusion on every eligible file, also on a disk that
refuses calls, such as reading a file for lack of permission.

* `Engine.Agrees` — a check and a repair come to the same conclusion on a file.

## Results

* `fixFile_cases` — the ways in which the repair of a file that takes a header ends.
* `fixFile_agrees_with_check` — on every eligible file the two agree.
-/

namespace LicenseAudit.Engine

variable {e : Engine} {r : Registry} {fs : FileSystem} {refusals : Call → Option IoError}
  {root : Path} {files : List Path}

-- ---------------------------------------------------------------------------
-- The repair
-- ---------------------------------------------------------------------------

/-- The ways in which the repair of a file that takes a header ends: the file cannot be read, it
carries the marker, or it lacks the marker and then receives the header or cannot be written. -/
theorem fixFile_cases {p : Path} {header : String} (hSupports : e.headers.supports p = true)
    (hHeader : e.headers.headerFor? p = some header) (refusals : Call → Option IoError)
    (fs : FileSystem) :
    (∃ cause, e.verdict p (fs.reply refusals (.read p)) = .error (.read p cause) ∧
      (((e.fixFile p).refusing refusals).run fs).1 = .error (.read p cause)) ∨
    (e.verdict p (fs.reply refusals (.read p)) = .ok true ∧
      (((e.fixFile p).refusing refusals).run fs).1 = .ok .alreadyCompliant) ∨
    (e.verdict p (fs.reply refusals (.read p)) = .ok false ∧
      ((((e.fixFile p).refusing refusals).run fs).1 = .ok .added ∨
        ∃ cause, (((e.fixFile p).refusing refusals).run fs).1 = .error (.write p cause))) := by
  have hRead : (Program.read p).ReadOnly := Program.only_ask rfl
  simp only [fixFile, hSupports, hHeader, Bool.not_true, Bool.false_eq_true, if_false,
    Program.run_refusing_bind hRead, Program.answer_read]
  cases fs.reply refusals (.read p) with
  | error cause => exact Or.inl ⟨cause, rfl, rfl⟩
  | ok content =>
    refine Or.inr ?_
    simp only [verdict]
    cases carries content e.marker with
    | true => exact Or.inl ⟨rfl, rfl⟩
    | false =>
      refine Or.inr ⟨rfl, ?_⟩
      -- whatever becomes of the write
      simp only [Bool.false_eq_true, if_false, Program.refusing_bind, Program.run_bind]
      generalize (((Program.replace e.tag p _).refusing refusals).run fs) = written
      obtain ⟨outcome, after⟩ := written
      cases outcome with
      | error cause => exact Or.inr ⟨cause, rfl⟩
      | ok done => exact Or.inl rfl

-- ---------------------------------------------------------------------------
-- Agreement
-- ---------------------------------------------------------------------------

/-- A check and a repair come to the same conclusion on a file: it lacks the marker just if the
repair adds the header or fails to write it; it cannot be read just if the repair fails to read it,
with the same cause; it is in order just if the repair finds the marker; and the repair does not
find that no header applies. -/
structure Agrees (c : CheckOutcome) (p : Path) (answer : Except FileError FixOutcome) : Prop where
  missing   : p ∈ c.missing ↔ answer = .ok .added ∨ ∃ cause, answer = .error (.write p cause)
  failed    : p ∈ c.failures.map FileError.path ↔ ∃ cause, answer = .error (.read p cause)
  cause     : ∀ cause, .read p cause ∈ c.failures ↔ answer = .error (.read p cause)
  inOrder   : p ∉ c.missing ∧ p ∉ c.failures.map FileError.path ↔ answer = .ok .alreadyCompliant
  supported : answer ≠ .ok .unsupported

/-- **What a check reports is what a repair changes.** Let the disk refuse some calls whenever they
are made. A check whose walk ends well ends well, with any number of workers and under every
schedule. And a repair of any one of the eligible files, in the state of the disk that the check has
seen, agrees with it on that file. -/
theorem fixFile_agrees_with_check (hTree : fs.WellFormed) (hHeaders : e.headers = r.source)
    (refusals : Call → Option IoError)
    (hFiles : (((e.eligible root).refusing refusals).run fs).1 = .ok files)
    (schedule : List Pool.Event) :
    ∃ c, ((e.check root schedule).refusing refusals).run fs = (.ok c, fs) ∧
      ∀ p ∈ files, Agrees c p (((e.fixFile p).refusing refusals).run fs).1 := by
  have hSupports : ∀ p ∈ files, e.headers.supports p = true :=
    fun p hMem => ((eligible_found hTree hFiles).1 p hMem).1
  obtain ⟨c, hRun, hSorts⟩ := exists_check (eligible_differ hTree hFiles) hFiles schedule
  refine ⟨c, hRun, fun p hMem => ?_⟩
  obtain ⟨header, hHeader⟩ : ∃ header, e.headers.headerFor? p = some header := by
    have hTakes := hSupports p hMem
    rw [hHeaders] at hTakes ⊢
    simp only [Registry.source] at hTakes ⊢
    obtain ⟨style, hHeader⟩ := Registry.exists_headerFor? hTakes
    exact ⟨_, hHeader⟩
  have hMissing : p ∈ c.missing ↔ e.verdict p (fs.reply refusals (.read p)) = .ok false := by
    rw [hSorts.missing, and_iff_right hMem]
  have hCause : ∀ cause, .read p cause ∈ c.failures ↔
      e.verdict p (fs.reply refusals (.read p)) = .error (.read p cause) := by
    intro cause
    rw [hSorts.failures]
    constructor
    · rintro ⟨q, -, hFails⟩
      obtain ⟨_, -, hSame⟩ := verdict_eq_error_iff.mp hFails
      obtain rfl : p = q := (FileError.read.inj hSame).1
      exact hFails
    · exact fun hFails => ⟨p, hMem, hFails⟩
  have hFailed : p ∈ c.failures.map FileError.path ↔
      ∃ cause, e.verdict p (fs.reply refusals (.read p)) = .error (.read p cause) := by
    rw [List.mem_map]
    constructor
    · rintro ⟨x, hIn, rfl⟩
      obtain ⟨q, -, hFails⟩ := (hSorts.failures x).mp hIn
      obtain ⟨cause, -, rfl⟩ := verdict_eq_error_iff.mp hFails
      exact ⟨cause, hFails⟩
    · rintro ⟨cause, hFails⟩
      exact ⟨.read p cause, (hCause cause).mpr hFails, rfl⟩
  rcases fixFile_cases (hSupports p hMem) hHeader refusals fs with
    ⟨cause, hVerdict, hAnswer⟩ | ⟨hVerdict, hAnswer⟩ | ⟨hVerdict, hAnswer | ⟨cause, hAnswer⟩⟩
  all_goals
    rw [hVerdict] at hMissing
    simp only [hVerdict] at hCause hFailed
    rw [hAnswer]
    exact ⟨by simp [hMissing], by simp [hFailed], by simp [hCause], by simp [hMissing, hFailed],
      by simp⟩

/-- The first file lacks the letter and receives it; the second one cannot be read, neither by the
check nor by the repair. -/
theorem fixFile_agrees_on_locked_file :
    ∃ c, ((letterEngine.check ⟨"."⟩ []).refusing lockedFile).run (twoFiles [0x41] [0x4C]) =
        (.ok c, twoFiles [0x41] [0x4C]) ∧
      ⟨"./a.rs"⟩ ∈ c.missing ∧ .read ⟨"./b.rs"⟩ (.system 13) ∈ c.failures := by
  have hHeaders : letterEngine.headers = (⟨"L", [], []⟩ : Registry).source := rfl
  obtain ⟨c, hRun, hAgrees⟩ := fixFile_agrees_with_check
    (wellFormed_twoFiles [0x41] [0x4C]) hHeaders lockedFile (eligible_lockedFile [0x41] [0x4C]) []
  have hFirst := hAgrees ⟨"./a.rs"⟩ (List.mem_cons_self ..)
  have hSecond := hAgrees ⟨"./b.rs"⟩ (List.mem_cons_of_mem _ (List.mem_cons_self ..))
  exact ⟨c, hRun, hFirst.missing.mpr (Or.inl rfl), (hSecond.cause _).mpr rfl⟩

end LicenseAudit.Engine
