import LicenseAudit.Proofs.Audit.Agreement
import LicenseAudit.Proofs.Audit.Ends
import LicenseAudit.Proofs.Audit.Frame
import LicenseAudit.Proofs.Audit.Serial

/-!
# Audits with any number of workers

How many workers an audit has, and how they take turns, is no part of what it comes to. A check
looks only. The repairs of different files share nothing on the disk, unless one of them is the
temporary file of another.

## Results

* `check_withJobs`, `fixAll_withJobs` — without interleaving the number of workers does not matter.
* `run_check_schedule` — a check ends alike along every schedule, also where calls are refused.
* `run_fixAll_schedule` — so does a repair of a tree in which no temporary files stand.
-/

namespace LicenseAudit.Engine

variable {fs : FileSystem} {refusals : Call → Option IoError}

-- ---------------------------------------------------------------------------
-- Without interleaving
-- ---------------------------------------------------------------------------

theorem check_withJobs (e : Engine) (jobs : Nat) (root : Path) :
    (e.withJobs jobs).check root [] = e.check root [] := by
  simp only [check, Pool.run_nil]
  rfl

theorem fixAll_withJobs (e : Engine) (jobs : Nat) (root : Path) :
    (e.withJobs jobs).fixAll root [] [] = e.fixAll root [] [] := by
  simp only [fixAll, check_withJobs, Pool.run_nil]
  rfl

-- ---------------------------------------------------------------------------
-- Checks
-- ---------------------------------------------------------------------------

/-- A check ends alike along every schedule, also where calls are refused. -/
theorem run_check_schedule (hTree : fs.WellFormed) (e : Engine) (root : Path)
    (refusals : Call → Option IoError) (schedule : List Pool.Event) :
    ((e.check root schedule).refusing refusals).run fs =
      ((e.check root []).refusing refusals).run fs := by
  cases hWalk : (((e.eligible root).refusing refusals).run fs).1 with
  | error failure =>
    rw [check_of_walk_error hWalk, check_of_walk_error hWalk]
  | ok files =>
    have hDiffer := eligible_differ hTree hWalk
    obtain ⟨c, hRun, hSorts⟩ := exists_check hDiffer hWalk schedule
    obtain ⟨c', hRun', hSorts'⟩ := exists_check hDiffer hWalk []
    rw [hRun, hRun', hSorts.unique hSorts']

-- ---------------------------------------------------------------------------
-- Answers in another order
-- ---------------------------------------------------------------------------

/-- A repair that fails names its file. -/
theorem fixFile_ends (e : Engine) (p : Path) :
    (e.fixFile p).Ends fun outcome => ∀ x, outcome = .error x → x.path = p := by
  have hOk : ∀ outcome : FixOutcome, ∀ x : FileError,
      (Except.ok outcome : Except FileError FixOutcome) = .error x → x.path = p := by
    intro outcome x hError
    cases hError
  rw [fixFile]
  split
  · exact hOk _
  · split
    · exact hOk _
    · refine (Program.read p).ends_any.bind fun found _ => ?_
      cases found with
      | error cause =>
        intro x hError
        cases hError
        rfl
      | ok content =>
        simp only
        split
        · exact hOk _
        · refine (Program.replace e.tag p _).ends_any.bind fun replaced _ => ?_
          cases replaced with
          | ok done => exact hOk _
          | error cause =>
            intro x hError
            cases hError
            rfl

/-- One after the other, the repairs of files answer for these files. -/
theorem mapM_repair_ends (e : Engine) (files : List Path) :
    (files.mapM e.repair).Ends fun answers => answers.map Prod.fst = files ∧
      ∀ a ∈ answers, ∀ x, a.2 = .error x → x.path = a.1 := by
  induction files with
  | nil => exact ⟨rfl, fun a hMem => absurd hMem List.not_mem_nil⟩
  | cons p rest ih =>
    rw [List.mapM_cons]
    have hFirst : (e.repair p).Ends fun a => a.1 = p ∧ ∀ x, a.2 = .error x → x.path = p :=
      (e.fixFile_ends p).bind fun outcome hOutcome => ⟨rfl, hOutcome⟩
    refine hFirst.bind fun a ha => ih.bind fun more hMore => ?_
    refine ⟨by rw [List.map_cons, ha.1, hMore.1], fun b hMem => ?_⟩
    rcases List.mem_cons.mp hMem with rfl | hLater
    · rw [ha.1]
      exact ha.2
    · exact hMore.2 b hLater

/-- The failures of answers about different files are different, also from earlier ones. -/
theorem differ_failures {failures : List FileError}
    {answers : List (Path × Except FileError FixOutcome)}
    (hPaths : ∀ a ∈ answers, ∀ x, a.2 = .error x → x.path = a.1)
    (hDiffer : (answers.map Prod.fst ++ failures.map FileError.path).Pairwise
      fun p q => p.key ≠ q.key) :
    (failures ++ answers.filterMap refused?).Pairwise fun x y => x.path.key ≠ y.path.key := by
  obtain ⟨hAnswers, hFailures, hBetween⟩ := List.pairwise_append.mp hDiffer
  rw [List.pairwise_map] at hAnswers hFailures
  have hNamed : ∀ {a x}, a ∈ answers → refused? a = some x → x.path = a.1 :=
    fun hMem hSome => hPaths _ hMem _ (refused?_eq_some_iff.mp hSome)
  have hRefused : (answers.filterMap refused?).Pairwise fun x y => x.path.key ≠ y.path.key := by
    refine List.pairwise_filterMap.mpr (hAnswers.imp_of_mem ?_)
    intro a b ha hb hKeys x hx y hy
    rwa [hNamed ha hx, hNamed hb hy]
  refine List.pairwise_append.mpr ⟨hFailures, hRefused, fun x hx y hy => ?_⟩
  obtain ⟨a, hMem, hSome⟩ := List.mem_filterMap.mp hy
  rw [hNamed hMem hSome]
  exact (hBetween _ (List.mem_map_of_mem hMem) _ (List.mem_map_of_mem hx)).symm

/-- Answers about different files are collected alike in every order. -/
theorem collectFixes_perm {failures : List FileError}
    {answers answers' : List (Path × Except FileError FixOutcome)} (h : answers'.Perm answers)
    (hPaths : ∀ a ∈ answers, ∀ x, a.2 = .error x → x.path = a.1)
    (hDiffer : (answers.map Prod.fst ++ failures.map FileError.path).Pairwise
      fun p q => p.key ≠ q.key) :
    collectFixes failures answers' = collectFixes failures answers := by
  have hAnswers := List.pairwise_map.mp (List.pairwise_append.mp hDiffer).1
  rw [collectFixes_eq, collectFixes_eq,
    Path.sortedSet_congr (h.filterMap added?) (differ_added hAnswers),
    FileError.sorted_congr ((h.filterMap refused?).append_left failures)]
  exact differ_failures hPaths hDiffer

-- ---------------------------------------------------------------------------
-- Repairs
-- ---------------------------------------------------------------------------

/-- The repairs of files that lack the marker, each at a site of its own, end alike along every
schedule, also where calls are refused. -/
theorem run_repairs_schedule (e : Engine) (refusals : Call → Option IoError) {missing : List Path}
    {site : Path → Site e.tag} {before : Path → Cells} (hPaths : ∀ p, (site p).path = p)
    (hAwaits : ∀ p ∈ missing, e.Awaits fs (site p) (before p) p)
    (hApart : missing.Pairwise fs.Apart) (schedule : List Pool.Event) :
    ∃ rs fs', ((Pool.run schedule e.jobs missing fun p => some <$> e.repair p).refusing
        refusals).run fs = (.results rs, fs') ∧
      rs.Perm (((missing.mapM e.repair).refusing refusals).run fs).1 ∧
      fs'.Same (((missing.mapM e.repair).refusing refusals).run fs).2 := by
  have hDisjoint : missing.Pairwise fun p q => ∀ l, (site p).Owns l → ¬ (site q).Owns l := by
    refine hApart.imp_of_mem ?_
    intro p q hp hq hpq
    exact (hAwaits p hp).disjoint (hAwaits q hq) hpq
  have hLocal : ∀ p, ((e.repair p).refusing refusals).Only (site p).Reaches := by
    intro p
    have hOwn := only_repair e (site p)
    rw [hPaths] at hOwn
    exact hOwn.refusing refusals
  -- every repair hears of the refusals itself
  obtain ⟨other, hRun⟩ := Pool.exists_run_refusing (fun p => some <$> e.repair p) refusals
    schedule e.jobs missing fs
  rw [hRun, Program.refusing_mapM]
  simp only [Program.refusing_map]
  exact Pool.run_serial other e.jobs hDisjoint (fun p hMem => (hAwaits p hMem).shows) hLocal

/-- **A repair of a tree ends alike along every schedule.** What may be read may be looked at, and
no temporary file stands beside a file that lacks the marker. The outcome is that of a repair
without interleaving, and the same entries are left. -/
theorem run_fixAll_schedule (hTree : fs.WellFormed) (e : Engine) (root : Path)
    (hSeen : ∀ p, refusals (.read p) = none → refusals (.linkStatus p) = none)
    (hVacant : ∀ p, e.Lacks (fs.read p) →
      ∀ st, fs.linkStatus (p.temporarySibling e.tag) ≠ .ok st)
    (checking fixing : List Pool.Event) :
    (((e.fixAll root checking fixing).refusing refusals).run fs).1 =
        (((e.fixAll root [] []).refusing refusals).run fs).1 ∧
      (((e.fixAll root checking fixing).refusing refusals).run fs).2.Same
        (((e.fixAll root [] []).refusing refusals).run fs).2 := by
  simp only [fixAll, Program.refusing_bind, Program.run_bind,
    run_check_schedule hTree e root refusals checking]
  cases hWalk : (((e.eligible root).refusing refusals).run fs).1 with
  | error failure =>
    rw [check_of_walk_error hWalk]
    exact ⟨rfl, .refl _⟩
  | ok files =>
    have hDiffer := eligible_differ hTree hWalk
    obtain ⟨c, hCheck, hReports⟩ := exists_check hDiffer hWalk []
    have hSpare : ∀ p ∈ c.missing, ∀ st, fs.linkStatus (p.temporarySibling e.tag) ≠ .ok st :=
      fun p hMem => hVacant p (lacks_of_told ((hReports.missing p).mp hMem).2)
    obtain ⟨site, before, hPaths, hAwaits, hApart⟩ :=
      exists_sites hTree hSeen hWalk hReports hSpare
    obtain ⟨rs, fs', hRun, hPerm, hSame⟩ :=
      run_repairs_schedule e refusals hPaths hAwaits hApart fixing
    obtain ⟨hAnswers, hErrors⟩ := (e.mapM_repair_ends c.missing).run_refusing refusals fs
    have hCollect := collectFixes_perm hPerm hErrors
      (by rw [hAnswers]; exact hReports.differ (fun _ _ => path_of_verdict) hDiffer)
    simp only [hCheck, Program.refusing_bind, Program.run_bind, hRun, Pool.run_nil,
      Program.refusing_map, Program.run_map, Program.refusing_pure, hCollect]
    exact ⟨rfl, hSame⟩

end LicenseAudit.Engine
