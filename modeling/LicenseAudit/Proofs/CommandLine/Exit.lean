import LicenseAudit.CommandLine.Run
import LicenseAudit.Proofs.Notice.Document

/-!
# Exit statuses

The exit status of a run sums up what its report records. Without a report file nothing of a run can
fail behind its last check or repair, so that the status says what was found and done.

* `Session.Orderly` — the notice document is current, and the check of the tree is clean.

## Results

* `exit_lint_iff` — a check of everything exits with 0 exactly where everything is in order.
* `exit_fixEverything_iff` — a repair of everything exits with 0 exactly where the notice document
  is repaired, and then the tree without failures.
-/

namespace LicenseAudit

theorem Transcript.exitStatus_eq_zero_iff {t : Transcript} :
    t.exitStatus = 0 ↔ t.ending = .ok true := by
  unfold exitStatus
  split
  · rename_i hEnding
    simp [hEnding]
  · rename_i hEnding
    simp [hEnding]
  · rename_i hEnding
    simp [hEnding]

-- ---------------------------------------------------------------------------
-- Reports
-- ---------------------------------------------------------------------------

namespace RunReport

variable {r : RunReport} {root : Path}

/-- Recorded failures are added, and nothing else. -/
theorem recordFailures_eq (r : RunReport) (failures : List FileError) (root : Path) :
    r.recordFailures failures root =
      { r with failures := r.failures ++ failures.map fun x => ⟨x.path.shownFrom root, x.message⟩ }
        := by
  unfold recordFailures
  induction failures generalizing r with
  | nil => simp
  | cons x rest ih =>
    rw [List.foldl_cons, ih]
    simp [recordFailure]

/-- Behind a check the report is a success if the notice document was fine and the check clean. -/
theorem isSuccess_recordCheck (hMode : r.mode = .lint) (hMissing : r.missing = [])
    (hFailures : r.failures = []) (c : CheckOutcome) :
    (r.recordCheck c root).isSuccess = (r.noticeIsFine && c.isClean) := by
  rw [recordCheck, recordFailures_eq]
  simp only [isSuccess, noticeIsFine, hMode, hMissing, hFailures, CheckOutcome.isClean,
    List.nil_append, List.isEmpty_map]
  cases c.missing.isEmpty <;> cases c.failures.isEmpty <;> simp

/-- Behind a repair the report is a success if the notice document was fine and no file failed. -/
theorem isSuccess_recordFixAll (hMode : r.mode = .fix) (hFailures : r.failures = [])
    (o : FixAllOutcome) :
    (r.recordFixAll o root).isSuccess = (r.noticeIsFine && o.isSuccess) := by
  rw [recordFixAll, recordFailures_eq]
  simp [isSuccess, noticeIsFine, hMode, hFailures, FixAllOutcome.isSuccess]

end RunReport

-- ---------------------------------------------------------------------------
-- Parts of a run
-- ---------------------------------------------------------------------------

namespace Session

variable {s : Session} {p : Progress} {fs : FileSystem}

/-- Without a report file a command ends with what its report says. -/
theorem conclude_run (hReport : s.reportPath? = none) (p : Progress)
    (lastLines : Bool → List Line) (fs : FileSystem) :
    (((s.conclude p lastLines).run fs).1.exitStatus = 0 ↔ p.report.isSuccess = true) ∧
      ((s.conclude p lastLines).run fs).2 = fs := by
  have hRun : ∃ lines, (s.conclude p lastLines).run fs =
      (⟨lines, .ok p.report.isSuccess⟩, fs) := by
    unfold conclude writeReport
    rw [hReport]
    exact ⟨_, rfl⟩
  obtain ⟨lines, hRun⟩ := hRun
  rw [hRun, Transcript.exitStatus_eq_zero_iff]
  simp

/-- A check of the notice document records whether it is current. -/
theorem lintNotice_run (s : Session) (p : Progress) (fs : FileSystem) :
    ∃ lines status detail?, (s.lintNotice p).run fs =
        (⟨lines, p.report.recordNotice status detail?⟩, fs) ∧
      (status ≠ .failed ↔ s.notice.Current fs s.year) := by
  have hStay : ((s.notice.lint s.year).run fs).2 = fs := Notice.lint_snd
  rw [← Notice.lint_eq_ok_iff]
  generalize hRun : (s.notice.lint s.year).run fs = x at hStay ⊢
  obtain ⟨reply, fs'⟩ := x
  obtain rfl : fs' = fs := hStay
  unfold lintNotice
  rw [Program.run_bind, hRun]
  cases reply with
  | ok done =>
    refine ⟨_, .current, none, rfl, iff_of_true (by decide) rfl⟩
  | error cause =>
    refine ⟨_, .failed, some cause.message, rfl, iff_of_false (by simp) (by simp)⟩

-- ---------------------------------------------------------------------------
-- Everything
-- ---------------------------------------------------------------------------

/-- The notice document is current, and the check of the tree is clean. -/
def Orderly (s : Session) (fs : FileSystem) : Prop :=
  s.notice.Current fs s.year ∧
    ∃ c, ((s.engine.check s.root).run fs).1 = .ok c ∧ c.isClean = true

/-- **What a check of everything tells.** It exits with 0 exactly where everything is in order. -/
theorem exit_lint_iff (hReport : s.reportPath? = none) :
    (s.lint.run fs).1.exitStatus = 0 ↔ s.Orderly fs := by
  obtain ⟨lines, status, detail?, hNotice, hStatus⟩ := s.lintNotice_run (.start s .lint) fs
  unfold lint Orderly
  rw [Program.run_bind, hNotice, Program.run_bind, ← hStatus]
  generalize (s.engine.check s.root).run fs = x
  obtain ⟨reply, fs'⟩ := x
  cases reply with
  | error cause =>
    refine iff_of_false ?_ (by simp)
    rw [Transcript.exitStatus_eq_zero_iff]
    exact fun hEnding => by cases hEnding
  | ok c =>
    show ((s.conclude _ _).run fs').1.exitStatus = 0 ↔ _
    rw [(conclude_run hReport _ _ _).1]
    show (RunReport.recordCheck _ c s.root).isSuccess = true ↔ _
    rw [RunReport.isSuccess_recordCheck rfl rfl rfl, Bool.and_eq_true]
    simp [RunReport.noticeIsFine, RunReport.recordNotice]

/-- A repair of the notice document records whether it succeeded. -/
theorem fixNotice_run (s : Session) (p : Progress) (fs : FileSystem) :
    ∃ lines status detail?, (s.fixNotice p).run fs =
        (⟨lines, p.report.recordNotice status detail?⟩,
          ((s.notice.fix s.tag s.year).run fs).2) ∧
      (status ≠ .failed ↔
        ∃ fixed, ((s.notice.fix s.tag s.year).run fs).1 = .ok fixed) := by
  unfold fixNotice
  rw [Program.run_bind]
  generalize (s.notice.fix s.tag s.year).run fs = x
  obtain ⟨reply, fs'⟩ := x
  cases reply with
  | ok fixed => exact ⟨_, .fixed, none, rfl, iff_of_true (by decide) ⟨fixed, rfl⟩⟩
  | error cause => exact ⟨_, .failed, some cause.message, rfl, iff_of_false (by simp) (by simp)⟩

/-- What a repair of everything leaves is what the repair of the tree leaves, which comes last. -/
theorem fixEverything_snd (hReport : s.reportPath? = none) :
    (s.fixEverything.run fs).2 =
      ((s.engine.fixAll s.root).run ((s.notice.fix s.tag s.year).run fs).2).2 := by
  obtain ⟨lines, status, detail?, hNotice, -⟩ := s.fixNotice_run (.start s .fix) fs
  rw [fixEverything, Program.run_bind, hNotice, Program.run_bind]
  generalize (s.engine.fixAll s.root).run ((s.notice.fix s.tag s.year).run fs).2 = x
  obtain ⟨reply, fs'⟩ := x
  cases reply with
  | error cause => rfl
  | ok o => exact (conclude_run hReport _ _ fs').2

/-- **What a repair of everything tells.** It exits with 0 exactly where the repair of the notice
document succeeds, and then that of the tree, and no file fails. -/
theorem exit_fixEverything_iff (hReport : s.reportPath? = none) :
    (s.fixEverything.run fs).1.exitStatus = 0 ↔
      ∃ fixed o, ((s.notice.fix s.tag s.year).run fs).1 = .ok fixed ∧
        ((s.engine.fixAll s.root).run ((s.notice.fix s.tag s.year).run fs).2).1 = .ok o ∧
        o.failures = [] := by
  obtain ⟨lines, status, detail?, hNotice, hStatus⟩ := s.fixNotice_run (.start s .fix) fs
  rw [fixEverything, Program.run_bind, hNotice, Program.run_bind]
  generalize (s.engine.fixAll s.root).run ((s.notice.fix s.tag s.year).run fs).2 = x
  obtain ⟨reply, fs'⟩ := x
  cases reply with
  | error cause =>
    refine iff_of_false ?_ (by simp)
    rw [Transcript.exitStatus_eq_zero_iff]
    exact fun hEnding => by cases hEnding
  | ok o =>
    show ((s.conclude _ _).run fs').1.exitStatus = 0 ↔ _
    rw [(conclude_run hReport _ _ _).1]
    show (RunReport.recordFixAll _ o s.root).isSuccess = true ↔ _
    rw [RunReport.isSuccess_recordFixAll rfl rfl, Bool.and_eq_true, FixAllOutcome.isSuccess,
      List.isEmpty_iff]
    have hFine : (RunReport.recordNotice (.start .fix s.surroundings.generatedAt) status
        detail?).noticeIsFine = true ↔
        ∃ fixed, ((s.notice.fix s.tag s.year).run fs).1 = .ok fixed := by
      rw [← hStatus]
      simp [RunReport.noticeIsFine, RunReport.recordNotice]
    refine (and_congr_left' hFine).trans ?_
    simp

end Session

end LicenseAudit
