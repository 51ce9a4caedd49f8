import LicenseAudit.Proofs.Audit.Interleaving
import LicenseAudit.Proofs.CommandLine.Account
import LicenseAudit.Proofs.CommandLine.Session
import LicenseAudit.Proofs.Notice.Refusal

/-!
# The calls of a run, whatever its presentation

How much is printed, in which colours, and how many workers there are, is settled by options that no
call of a run depends on. Without them options, surroundings and sessions are *plain*.

* `Options.plain`, `Surroundings.plain`, `Session.plain` — what is left without presentation and
  workers;
* `FileSystem.Uncluttered` — no file stands in the way of the temporary files of a run.

## Results

* `begin_plain` — a session begins, up to its presentation, as that of the plain options.
* `account_plain` — it makes the calls of the plain session.
* `run_account_plain` — along schedules it returns what the plain session returns.
-/

namespace LicenseAudit

/-- The options less those about presentation and workers. -/
def Options.plain (o : Options) : Options :=
  { o with jobs? := none, verbosity := 0, quiet := false, colors? := none }

/-- The surroundings less the clock, the processors and the terminals. -/
def Surroundings.plain (around : Surroundings) : Surroundings :=
  { around with generatedAt := "", processors := 0, outIsTerminal := false, errIsTerminal := false }

/-- Nothing has the name of a temporary file of a run. -/
def FileSystem.Uncluttered (fs : FileSystem) (tag : Nat) : Prop :=
  ∀ n dir, fs.lookup? (temporaryName n tag :: dir) = none

namespace Session

/-- The session less its presentation and its workers. -/
def plain (s : Session) : Session :=
  { s with
    settings := { s.settings with jobs? := none }
    presentation := ⟨.normal, false, false⟩
    surroundings := s.surroundings.plain }

variable {o o' : Options} {around around' : Surroundings} {refusals : Call → Option IoError}
  {fs : FileSystem} {s s' : Session}

theorem root_of_plain (h : s'.plain = s.plain) : s'.root = s.root := by
  have hRoot : s'.plain.root = s.plain.root := congrArg root h
  exact hRoot

theorem reportPath?_of_plain (h : s'.plain = s.plain) : s'.reportPath? = s.reportPath? := by
  have hPath : s'.plain.reportPath? = s.plain.reportPath? := congrArg reportPath? h
  exact hPath

-- ---------------------------------------------------------------------------
-- The beginning of a run
-- ---------------------------------------------------------------------------

theorem ofConfig_plain (o : Options) (around : Surroundings) (c : Option Config) :
    (ofConfig o around c).map plain = (ofConfig o.plain around.plain c).map plain := by
  have hRoot : o.plain.root = o.root := rfl
  rw [ofConfig, ofConfig, hRoot]
  cases Settings.ofConfig o.root c <;> rfl

/-- Up to its presentation a session begins as that of the plain options. -/
theorem begin_plain (o : Options) (around : Surroundings) :
    Except.map plain <$> begin o around = Except.map plain <$> begin o.plain around.plain := by
  have hRoot : o.plain.root = o.root := rfl
  have hSource : o.plain.configSource around.plain = o.configSource around := rfl
  simp only [begin, map_bind, hRoot, hSource]
  refine bind_congr fun there => ?_
  cases there with
  | false => rfl
  | true =>
    simp only [Bool.not_true, Bool.false_eq_true, if_false, map_bind]
    refine bind_congr fun loaded => ?_
    cases loaded with
    | error cause => rfl
    | ok c => exact congrArg Program.done (ofConfig_plain o around c)

/-- Runs whose options differ in presentation and workers begin alike. -/
theorem run_begin_plain (hOptions : o'.plain = o.plain) (hAround : around'.plain = around.plain)
    (refusals : Call → Option IoError) (fs : FileSystem) :
    (((begin o' around').refusing refusals).run fs).1.map plain =
      (((begin o around).refusing refusals).run fs).1.map plain := by
  have hRun : ∀ (o : Options) (around : Surroundings),
      (((begin o around).refusing refusals).run fs).1.map plain =
        (((Except.map plain <$> begin o around).refusing refusals).run fs).1 := by
    intro o around
    rw [Program.refusing_map, Program.run_map]
  rw [hRun, hRun, begin_plain, begin_plain o, hOptions, hAround]

-- ---------------------------------------------------------------------------
-- The calls of a command
-- ---------------------------------------------------------------------------

variable (s)

/-- The audit of the plain session differs in the number of workers only. -/
theorem engine_plain : s.plain.engine = s.engine.withJobs 0 := rfl

/-- Without interleaving a session makes the calls of the plain one. -/
theorem account_plain (command : Command) :
    s.plain.account [] [] command = s.account [] [] command := by
  have hNotice : s.plain.notice = s.notice := rfl
  have hRoot : s.plain.root = s.root := rfl
  have hTag : s.plain.tag = s.tag := rfl
  have hYear : s.plain.year = s.year := rfl
  cases command with
  | lint =>
    simp only [account, hNotice, hYear, hRoot, engine_plain, Engine.check_withJobs]
  | fix target =>
    simp only [account]
    split_ifs with hAll
    · simp only [hNotice, hTag, hYear, hRoot, engine_plain, Engine.fixAll_withJobs]
    · rfl

variable {s}

/-- A repair of everything returns the same along every schedule. -/
theorem run_account_everything (hTree : fs.WellFormed) (hPermission : ByPermission refusals)
    (hClear : fs.Uncluttered s.tag) (checking fixing : List Pool.Event) :
    (((s.account checking fixing (.fix everything)).refusing refusals).run fs).1 =
        (((s.account [] [] (.fix everything)).refusing refusals).run fs).1 ∧
      (((s.account checking fixing (.fix everything)).refusing refusals).run fs).2.Same
        (((s.account [] [] (.fix everything)).refusing refusals).run fs).2 := by
  have hAfter := Program.wellFormed_run ((s.notice.fix s.tag s.year).refusing refusals) hTree
  have hClear' := Notice.vacant_run_fix hTree hPermission hClear s.notice s.year
  simp only [account, if_true, Program.refusing_bind, Program.run_bind, Program.refusing_pure,
    Program.run_pure]
  generalize ((s.notice.fix s.tag s.year).refusing refusals).run fs = renewed at hAfter hClear' ⊢
  have hVacant : ∀ p, s.engine.Lacks (renewed.2.read p) →
      ∀ st, renewed.2.linkStatus (p.temporarySibling s.tag) ≠ .ok st := by
    rintro p ⟨content, hRead, -⟩
    exact Program.vacant_beside hAfter hRead hClear'
  obtain ⟨hAnswer, hSame⟩ := Engine.run_fixAll_schedule hAfter s.engine s.root hPermission.seen
    hVacant checking fixing
  exact ⟨by rw [hAnswer], hSame⟩

/-- **The calls of a run, whatever its presentation.** Along schedules a session returns what the
plain one returns, and leaves the same entries. -/
theorem run_account_plain (hTree : fs.WellFormed) (hPermission : ByPermission refusals)
    {command : Command} (hClear : command = .fix everything → fs.Uncluttered s.tag)
    (checking fixing : List Pool.Event) :
    (((s.account checking fixing command).refusing refusals).run fs).1 =
        (((s.plain.account [] [] command).refusing refusals).run fs).1 ∧
      (((s.account checking fixing command).refusing refusals).run fs).2.Same
        (((s.plain.account [] [] command).refusing refusals).run fs).2 := by
  rw [account_plain]
  cases command with
  | lint =>
    have hAfter := Program.wellFormed_run ((s.notice.lint s.year).refusing refusals) hTree
    simp only [account, Program.refusing_bind, Program.run_bind, Program.refusing_pure,
      Engine.run_check_schedule hAfter s.engine s.root refusals checking]
    exact ⟨trivial, .refl _⟩
  | fix target =>
    by_cases hAll : target = everything
    · subst hAll
      exact run_account_everything hTree hPermission (hClear rfl) checking fixing
    · simp only [account, if_neg hAll]
      exact ⟨trivial, .refl _⟩

end Session

end LicenseAudit
