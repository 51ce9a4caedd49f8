import LicenseAudit.Proofs.CommandLine.Exit

/-!
# What a command returned, and what comes of it

A command first makes its calls — on the notice document, on the tree or on a file — and then says
what came of them: in lines, in a report and by its end. Everything it says follows from what the
calls returned. The two halves are taken apart here, so that the calls can be looked at without the
lines, and the lines without the file system.

* `Account` — what the calls of a command returned;
* `Session.account` — the calls of a command, along schedules for the pools;
* `Session.close` — what is made of an account: lines, a report and an ending;
* `runAlong` — a whole run, along schedules and with a clock of its own.

## Results

* `carryOut_eq` — to carry out a command is to make its calls and to close the account.
* `runCommand_eq` — a run is the run without interleaving.
-/

namespace LicenseAudit

/-- What the calls of a command returned. -/
inductive Account where
  /-- A check of everything. -/
  | checked (notice : Except NoticeError Unit) (tree : Except AuditError CheckOutcome)
  /-- A repair of everything. -/
  | repaired (notice : Except NoticeError FixedYear) (tree : Except AuditError FixAllOutcome)
  /-- A repair of the notice document. -/
  | renewed (notice : Except NoticeError FixedYear)
  /-- A repair of one file. -/
  | treated (file : Path) (outcome : Except FileError FixOutcome)

namespace Account

/-- Which command the account is about. -/
def mode : Account → RunMode
  | checked _ _ => .lint
  | repaired _ _ | renewed _ | treated _ _ => .fix

/-- Why the tree could not be traversed, if it could not. -/
def failure? : Account → Option AuditError
  | checked _ (.error e) | repaired _ (.error e) => some e
  | _ => none

/-- Why the operation on the notice document failed, if it did. -/
def noticeError? : Account → Option NoticeError
  | checked (.error e) _ | repaired (.error e) _ | renewed (.error e) => some e
  | _ => none

/-- The files that were found without header. -/
def missing : Account → List Path
  | checked _ (.ok c) => c.missing
  | _ => []

/-- The files that received a header. -/
def fixed : Account → List Path
  | repaired _ (.ok o) => o.fixed
  | treated file (.ok .added) => [file]
  | _ => []

/-- The files that failed, and how. -/
def failures : Account → List (Path × FileError)
  | checked _ (.ok c) => c.failures.map fun e => (e.path, e)
  | repaired _ (.ok o) => o.failures.map fun e => (e.path, e)
  | treated file (.error e) => [(file, e)]
  | _ => []

/-- What is recorded of the notice document. -/
def noticeState? : Account → Option NoticeEntry
  | checked notice _ => some <| match notice with
    | .ok () => ⟨.current, none⟩
    | .error e => ⟨.failed, some e.message⟩
  | repaired notice _ | renewed notice => some <| match notice with
    | .ok _ => ⟨.fixed, none⟩
    | .error e => ⟨.failed, some e.message⟩
  | treated _ _ => none

/-- The report about the account. -/
def report (acc : Account) (root : Path) (generatedAt : String) (microseconds : Nat) :
    RunReport where
  mode := acc.mode
  generatedAt := generatedAt
  missing := acc.missing.map fun p => p.shownFrom root
  fixed := acc.fixed.map fun p => p.shownFrom root
  failures := acc.failures.map fun f => ⟨f.1.shownFrom root, f.2.message⟩
  notice? := acc.noticeState?
  elapsedMilliseconds := microseconds / 1000

end Account

namespace Session

-- ---------------------------------------------------------------------------
-- The calls of a command
-- ---------------------------------------------------------------------------

/-- The calls that repair the notice document or one file, whichever the target means. -/
def targetAccount (s : Session) (target : Path) : Program Account := do
  let file ← s.resolveTarget target
  let named ← s.isNotice target
  if named || (← s.isNotice file) then return .renewed (← s.notice.fix s.tag s.year)
  else return .treated file (← s.engine.fixFile file)

/-- The calls of a command. The workers of its pools take their steps along the schedules. -/
def account (s : Session) (checking fixing : List Pool.Event) : Command → Program Account
  | .lint => do
    let notice ← s.notice.lint s.year
    return .checked notice (← s.engine.check s.root checking)
  | .fix target =>
    if target = everything then do
      let notice ← s.notice.fix s.tag s.year
      return .repaired notice (← s.engine.fixAll s.root checking fixing)
    else s.targetAccount ⟨target⟩

-- ---------------------------------------------------------------------------
-- What is made of an account
-- ---------------------------------------------------------------------------

/-- The lines about the notice document. -/
def noticeLines (s : Session) : Account → List Line
  | .checked (.ok ()) _ => s.presentation.detail ("Notice year is current: " ++ toString s.year)
  | .repaired (.ok fixed) _ | .renewed (.ok fixed) =>
    s.presentation.noticeFixed s.root s.notice.path fixed
  | .checked (.error e) _ | .repaired (.error e) _ | .renewed (.error e) =>
    s.presentation.noticeError e
  | .treated _ _ => []

/-- The lines about files. -/
def treeLines (s : Session) : Account → List Line
  | .checked _ (.ok c) => s.checkLines c
  | .repaired _ (.ok o) => s.fixLines o
  | .treated file (.ok .added) => s.presentation.addedFiles s.root [file]
  | .treated file (.ok .alreadyCompliant) =>
    s.presentation.detail (file.shownFrom s.root ++ " already has a license header")
  | .treated file (.ok .unsupported) =>
    s.presentation.notable
      (file.shownFrom s.root ++ " is not a file type that takes a license header; skipped")
  | .treated _ (.error e) => s.presentation.failures s.root [e]
  | _ => []

/-- The lines behind everything else. -/
def lastLines (s : Session) : Account → Bool → List Line
  | .checked _ _ => s.verdictLines
  | _ => fun _ => []

/-- The failure of a run whose tree could not be traversed. -/
def failureOf (s : Session) : Account → AuditError → RunFailure
  | .checked _ _ => .check s.root
  | _ => .repair s.root

/-- Makes lines, a report and an ending of an account. A clock tells how long the run took. -/
def close (s : Session) (clock : Program Nat) (acc : Account) : Program Transcript :=
  match acc.failure? with
  | some e => return ⟨s.noticeLines acc, .error (s.failureOf acc e)⟩
  | none => do
    let time ← clock
    let report := acc.report s.root s.surroundings.generatedAt time
    let lines := s.noticeLines acc ++ s.treeLines acc ++
      s.presentation.cost report.mode.text time
    match ← s.writeReport report with
    | .error e => return ⟨lines, .error e⟩
    | .ok () => return ⟨lines ++ s.lastLines acc report.isSuccess, .ok report.isSuccess⟩

/-- A command is concluded as its account is closed, if its report and its lines are those of the
account. -/
theorem conclude_eq (s : Session) (acc : Account) {progress : Progress}
    (hNone : acc.failure? = none)
    (hReport : ∀ time, progress.report.finish time =
      acc.report s.root s.surroundings.generatedAt time)
    (hLines : progress.lines = s.noticeLines acc ++ s.treeLines acc) :
    s.conclude progress (s.lastLines acc) = s.close Program.elapsed acc := by
  obtain ⟨lines, report⟩ := progress
  subst hLines
  rw [close, hNone, conclude]
  refine bind_congr fun time => ?_
  have hTime := hReport time
  generalize report.finish time = finished at hTime ⊢
  subst hTime
  refine bind_congr fun reply => ?_
  cases reply <;> rfl

end Session

-- ---------------------------------------------------------------------------
-- Reports
-- ---------------------------------------------------------------------------

section

variable (root : Path) (generatedAt : String) (time : Nat)

/-- What is recorded of a check is the report about its account. -/
theorem report_checked (notice : Except NoticeError Unit) (c : CheckOutcome) :
    (RunReport.recordCheck { RunReport.start .lint generatedAt with
        notice? := (Account.checked notice (.ok c)).noticeState? } c root).finish time =
      (Account.checked notice (.ok c)).report root generatedAt time := by
  rw [RunReport.recordCheck, RunReport.recordFailures_eq]
  simp [RunReport.finish, RunReport.start, Account.report, Account.mode, Account.missing,
    Account.fixed, Account.failures]

/-- What is recorded of a repair of the tree is the report about its account. -/
theorem report_repaired (notice : Except NoticeError FixedYear) (o : FixAllOutcome) :
    (RunReport.recordFixAll { RunReport.start .fix generatedAt with
        notice? := (Account.repaired notice (.ok o)).noticeState? } o root).finish time =
      (Account.repaired notice (.ok o)).report root generatedAt time := by
  rw [RunReport.recordFixAll, RunReport.recordFailures_eq]
  simp [RunReport.finish, RunReport.start, Account.report, Account.mode, Account.missing,
    Account.fixed, Account.failures]

end

-- ---------------------------------------------------------------------------
-- Commands
-- ---------------------------------------------------------------------------

namespace Session

theorem lint_eq (s : Session) : s.lint = s.account [] [] .lint >>= s.close Program.elapsed := by
  simp only [lint, lintNotice, account, bind_assoc]
  refine bind_congr fun notice => ?_
  cases notice with
  | ok done =>
    simp only [pure_bind]
    refine bind_congr fun tree => ?_
    cases tree with
    | error e => rfl
    | ok c =>
      exact s.conclude_eq (.checked (.ok done) (.ok c)) rfl
        (fun time => report_checked _ _ time (.ok done) c) rfl
  | error e =>
    simp only [pure_bind]
    refine bind_congr fun tree => ?_
    cases tree with
    | error e' => rfl
    | ok c =>
      exact s.conclude_eq (.checked (.error e) (.ok c)) rfl
        (fun time => report_checked _ _ time (.error e) c) rfl

theorem fixEverything_eq (s : Session) :
    s.fixEverything = s.account [] [] (.fix everything) >>= s.close Program.elapsed := by
  simp only [fixEverything, fixNotice, account, if_true, bind_assoc]
  refine bind_congr fun notice => ?_
  cases notice with
  | ok fixed =>
    simp only [pure_bind]
    refine bind_congr fun tree => ?_
    cases tree with
    | error e => rfl
    | ok o =>
      exact s.conclude_eq (.repaired (.ok fixed) (.ok o)) rfl
        (fun time => report_repaired _ _ time (.ok fixed) o) rfl
  | error e =>
    simp only [pure_bind]
    refine bind_congr fun tree => ?_
    cases tree with
    | error e' => rfl
    | ok o =>
      exact s.conclude_eq (.repaired (.error e) (.ok o)) rfl
        (fun time => report_repaired _ _ time (.error e) o) rfl

/-- A repair of the notice document alone is closed with the account of it. -/
theorem fixNotice_eq (s : Session) :
    (do s.conclude (← s.fixNotice (.start s .fix)) fun _ => []) =
      (do s.close Program.elapsed (.renewed (← s.notice.fix s.tag s.year))) := by
  simp only [fixNotice, bind_assoc]
  refine bind_congr fun notice => ?_
  cases notice with
  | ok fixed =>
    exact s.conclude_eq (.renewed (.ok fixed)) rfl (fun _ => rfl) (List.append_nil _).symm
  | error e =>
    exact s.conclude_eq (.renewed (.error e)) rfl (fun _ => rfl) (List.append_nil _).symm

/-- A repair of one file is closed with the account of it. -/
theorem fixSingle_eq (s : Session) (file : Path) :
    (do s.conclude (← s.fixSingle (.start s .fix) file) fun _ => []) =
      (do s.close Program.elapsed (.treated file (← s.engine.fixFile file))) := by
  simp only [fixSingle, bind_assoc]
  refine bind_congr fun outcome => ?_
  cases outcome with
  | ok done =>
    cases done <;> exact s.conclude_eq (.treated file (.ok _)) rfl (fun _ => rfl) rfl
  | error e => exact s.conclude_eq (.treated file (.error e)) rfl (fun _ => rfl) rfl

theorem fixTarget_eq (s : Session) (target : Path) :
    s.fixTarget target = s.targetAccount target >>= s.close Program.elapsed := by
  simp only [fixTarget, targetAccount, bind_assoc]
  refine bind_congr fun file => bind_congr fun named => bind_congr fun also => ?_
  split_ifs with hNotice
  · simpa [bind_assoc] using s.fixNotice_eq
  · simpa [bind_assoc] using s.fixSingle_eq file

/-- To carry out a command is to make its calls and to close the account. -/
theorem carryOut_eq (s : Session) (command : Command) :
    s.carryOut command = s.account [] [] command >>= s.close Program.elapsed := by
  cases command with
  | lint => exact s.lint_eq
  | fix target =>
    show s.fix target = _
    rw [fix]
    split_ifs with hAll
    · rw [hAll]
      exact s.fixEverything_eq
    · rw [account, if_neg hAll]
      exact s.fixTarget_eq ⟨target⟩

end Session

/-- A whole run. The workers of its pools take their steps along the schedules, and a clock tells
how long it took. -/
def runAlong (checking fixing : List Pool.Event) (clock : Program Nat) (a : Arguments)
    (around : Surroundings) : Program Transcript := do
  match ← Session.begin a.options around with
  | .error e => return ⟨[], .error e⟩
  | .ok s => s.close clock (← s.account checking fixing a.command)

/-- **The halves of a run.** A run is the one whose workers do not interleave. -/
theorem runCommand_eq (a : Arguments) (around : Surroundings) :
    runCommand a around = runAlong [] [] Program.elapsed a around := by
  rw [runCommand, runAlong]
  refine bind_congr fun started => ?_
  cases started with
  | error e => rfl
  | ok s => exact s.carryOut_eq a.command

end LicenseAudit
