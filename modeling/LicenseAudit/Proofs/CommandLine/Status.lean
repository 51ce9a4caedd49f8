import LicenseAudit.Proofs.Audit.Ends
import LicenseAudit.Proofs.CommandLine.Account
import LicenseAudit.Proofs.CommandLine.Session
import LicenseAudit.Proofs.FileSystem.Written
import LicenseAudit.Proofs.Report.Json

/-!
# What the exit status and the report tell

The exit status and the report are made from what the calls of a command returned. The disk may
refuse calls of its own, and the workers may take their steps in any order. What a report says is
what is read in it as JSON.

* `Options.Unprepared` — no session begins under the options;
* `Returns` — a session begins, and the calls of the command return an account;
* `Account.Fine` — nothing was found, and nothing failed;
* `Account.Tells` — a JSON value says what an account says;
* `EndTells` — an end that says what happened.

## Results

* `isSuccess_report` — the report of an account is a success exactly if the account is fine.
* `account_ends` — what can be said of every account.
* `run_tells` — every run ends with a status and a report that say what happened.
-/

namespace LicenseAudit

open Text

-- ---------------------------------------------------------------------------
-- Accounts
-- ---------------------------------------------------------------------------

namespace Account

/-- Nothing was found, and nothing failed. -/
def Fine : Account → Prop
  | checked notice tree => notice = .ok () ∧ ∃ c, tree = .ok c ∧ c.isClean = true
  | repaired notice tree =>
    (∃ fixed, notice = .ok fixed) ∧ ∃ o, tree = .ok o ∧ o.isSuccess = true
  | renewed notice => ∃ fixed, notice = .ok fixed
  | treated _ outcome => ∃ done, outcome = .ok done

/-- The lists of the account are in the order of paths, and only a walk may have failed. -/
structure Regular (acc : Account) : Prop where
  missing  : acc.missing.Pairwise fun p q => p.key < q.key
  fixed    : acc.fixed.Pairwise fun p q => p.key < q.key
  failures : acc.failures.Pairwise fun f g => f.1.key ≤ g.1.key
  failure  : ∀ e, acc.failure? = some e → ∃ w, e = .walk w

/-- The object lists the files of the account as they are shown from the root, in the order of their
paths, with the reasons of failures, and calls the notice document failed exactly if the operation
on it failed. -/
structure Tells (acc : Account) (root : Path) (report : Json) : Prop where
  missing  : report.member? "missing" =
    some (.array (acc.missing.map fun p => .string (p.shownFrom root)))
  fixed    : report.member? "fixed" =
    some (.array (acc.fixed.map fun p => .string (p.shownFrom root)))
  failures : report.member? "failures" = some (.array (acc.failures.map fun f =>
    .object [("path", .string (f.1.shownFrom root)), ("error", .string f.2.message)]))
  ordered  : acc.Regular
  notice   : (∃ entry, report.member? "notice" = some entry ∧
    entry.member? "status" = some (.string "failed")) ↔ acc.noticeError?.isSome = true

variable {acc : Account} {root : Path} {generatedAt : String} {time : Nat}

/-- A fine account is one without failures. -/
theorem failure?_of_fine (h : acc.Fine) : acc.failure? = none := by
  cases acc with
  | checked notice tree =>
    obtain ⟨-, c, rfl, -⟩ := h
    rfl
  | repaired notice tree =>
    obtain ⟨-, o, rfl, -⟩ := h
    rfl
  | renewed notice | treated file outcome => rfl

/-- The report of an account is a success exactly if the account is fine. -/
theorem isSuccess_report (hNone : acc.failure? = none) :
    (acc.report root generatedAt time).isSuccess = true ↔ acc.Fine := by
  cases acc with
  | checked notice tree =>
    cases tree with
    | error e => cases hNone
    | ok c =>
      cases notice <;>
        simp [report, RunReport.isSuccess, RunReport.noticeIsFine, noticeState?, failures, missing,
          mode, Fine, CheckOutcome.isClean, and_comm]
  | repaired notice tree =>
    cases tree with
    | error e => cases hNone
    | ok o =>
      cases notice <;>
        simp [report, RunReport.isSuccess, RunReport.noticeIsFine, noticeState?, failures, mode,
          Fine, FixAllOutcome.isSuccess]
  | renewed notice =>
    cases notice <;>
      simp [report, RunReport.isSuccess, RunReport.noticeIsFine, noticeState?, failures, mode, Fine]
  | treated file outcome =>
    rcases outcome with e | done
    · simp [report, RunReport.isSuccess, RunReport.noticeIsFine, noticeState?, failures, mode, Fine]
    · simp [report, RunReport.isSuccess, RunReport.noticeIsFine, noticeState?, failures, mode, Fine]

/-- The state of the notice document is said to be a failure just if it is one. -/
theorem noticeJson_failed_iff (notice? : Option NoticeEntry) :
    (RunReport.noticeJson notice?).member? "status" = some (.string "failed") ↔
      ∃ entry, notice? = some entry ∧ entry.status = .failed := by
  cases notice? with
  | none => simp [RunReport.noticeJson, Json.member?]
  | some entry =>
    cases hStatus : entry.status <;>
      simp [RunReport.noticeJson, Json.member?, hStatus, NoticeStatus.text]

/-- The notice document is recorded as failed just if the operation on it failed. -/
theorem noticeState?_failed_iff (acc : Account) :
    (∃ entry, acc.noticeState? = some entry ∧ entry.status = .failed) ↔
      acc.noticeError?.isSome = true := by
  cases acc with
  | checked notice tree => cases notice <;> simp [noticeState?, noticeError?]
  | repaired notice tree => cases notice <;> simp [noticeState?, noticeError?]
  | renewed notice => cases notice <;> simp [noticeState?, noticeError?]
  | treated file outcome => simp [noticeState?, noticeError?]

/-- The report of an account says what the account says. -/
theorem tells_report (h : acc.Regular) :
    acc.Tells root (acc.report root generatedAt time).toJson := by
  have hNotice : (acc.report root generatedAt time).toJson.member? "notice" =
      some (RunReport.noticeJson acc.noticeState?) := rfl
  have hMissing : (acc.report root generatedAt time).toJson.member? "missing" =
      some (.array ((acc.missing.map fun p => p.shownFrom root).map .string)) := rfl
  have hFixed : (acc.report root generatedAt time).toJson.member? "fixed" =
      some (.array ((acc.fixed.map fun p => p.shownFrom root).map .string)) := rfl
  refine ⟨?_, ?_, ?_, h, ?_⟩
  · rw [hMissing, List.map_map]
    rfl
  · rw [hFixed, List.map_map]
    rfl
  · have hFailures : (acc.report root generatedAt time).toJson.member? "failures" =
        some (.array ((acc.report root generatedAt time).failures.map fun e =>
          .object [("path", .string e.path), ("error", .string e.error)])) := rfl
    rw [hFailures, report, List.map_map]
    rfl
  · rw [hNotice, ← noticeState?_failed_iff, ← noticeJson_failed_iff]
    simp

theorem regular_checked (notice : Except NoticeError Unit) {tree : Except AuditError CheckOutcome}
    (h : Engine.EndsWell CheckOutcome.Ordered tree) : (checked notice tree).Regular := by
  cases tree with
  | error e =>
    exact ⟨List.Pairwise.nil, List.Pairwise.nil, List.Pairwise.nil,
      fun e' hSome => Option.some.inj hSome ▸ h⟩
  | ok c =>
    exact ⟨h.missing, List.Pairwise.nil, List.pairwise_map.mpr h.failures,
      fun e' hSome => by cases hSome⟩

theorem regular_repaired (notice : Except NoticeError FixedYear)
    {tree : Except AuditError FixAllOutcome} (h : Engine.EndsWell FixAllOutcome.Ordered tree) :
    (repaired notice tree).Regular := by
  cases tree with
  | error e =>
    exact ⟨List.Pairwise.nil, List.Pairwise.nil, List.Pairwise.nil,
      fun e' hSome => Option.some.inj hSome ▸ h⟩
  | ok o =>
    exact ⟨List.Pairwise.nil, h.fixed, List.pairwise_map.mpr h.failures,
      fun e' hSome => by cases hSome⟩

theorem regular_renewed (notice : Except NoticeError FixedYear) : (renewed notice).Regular :=
  ⟨List.Pairwise.nil, List.Pairwise.nil, List.Pairwise.nil, fun e hSome => by cases hSome⟩

theorem regular_treated (file : Path) (outcome : Except FileError FixOutcome) :
    (treated file outcome).Regular := by
  refine ⟨List.Pairwise.nil, ?_, ?_, fun e hSome => by cases hSome⟩
  · rcases outcome with e | done
    · exact List.Pairwise.nil
    · cases done <;> first | exact List.Pairwise.nil | exact List.pairwise_singleton _ _
  · cases outcome <;> first | exact List.Pairwise.nil | exact List.pairwise_singleton _ _

end Account

-- ---------------------------------------------------------------------------
-- The calls of a command
-- ---------------------------------------------------------------------------

namespace Session

theorem targetAccount_ends (s : Session) (target : Path) :
    (s.targetAccount target).Ends Account.Regular := by
  refine (s.resolveTarget target).ends_any.bind fun file _ => ?_
  refine (s.isNotice target).ends_any.bind fun named _ => ?_
  refine (s.isNotice file).ends_any.bind fun also _ => ?_
  -- what the repair of the file does is of no concern here
  generalize s.engine.fixFile file = repair
  split_ifs
  · exact Program.ends_return Account.regular_renewed _
  · exact Program.ends_return (Account.regular_treated file) repair

/-- Whatever the calls of a command are answered, their account is in order. -/
theorem account_ends (s : Session) (checking fixing : List Pool.Event) (command : Command) :
    (s.account checking fixing command).Ends Account.Regular := by
  cases command with
  | lint =>
    refine (s.notice.lint s.year).ends_any.bind fun notice _ => ?_
    refine (s.engine.check_ends s.root checking).bind fun tree hTree => ?_
    exact Account.regular_checked notice hTree
  | fix target =>
    rw [account]
    split_ifs with hAll
    · refine (s.notice.fix s.tag s.year).ends_any.bind fun notice _ => ?_
      refine (s.engine.fixAll_ends s.root checking fixing).bind fun tree hTree => ?_
      exact Account.regular_repaired notice hTree
    · exact s.targetAccount_ends ⟨target⟩

end Session

-- ---------------------------------------------------------------------------
-- The beginning and the end of a run
-- ---------------------------------------------------------------------------

/-- No session begins under the options: the root is no directory, the configuration cannot be
loaded, or no settings follow from it. -/
def Options.Unprepared (o : Options) (around : Surroundings) (refusals : Call → Option IoError)
    (fs : FileSystem) : Prop :=
  (((Program.directoryExists o.root).refusing refusals).run fs).1 = false ∨
    (∃ cause, (((o.configSource around).load.refusing refusals).run fs).1 = .error cause) ∨
    ∃ c? cause, (((o.configSource around).load.refusing refusals).run fs).1 = .ok c? ∧
      Settings.ofConfig o.root c? = .error cause

/-- A session begins, and the calls of the command return the account. -/
structure Returns (a : Arguments) (around : Surroundings) (checking fixing : List Pool.Event)
    (refusals : Call → Option IoError) (fs : FileSystem) (s : Session) (acc : Account)
    (after : FileSystem) : Prop where
  begins : (((Session.begin a.options around).refusing refusals).run fs).1 = .ok s
  calls  : ((s.account checking fixing a.command).refusing refusals).run fs = (acc, after)

/-- The report about the account is asked for and cannot be written. -/
def Session.Unreported (s : Session) (acc : Account) (time : Nat)
    (refusals : Call → Option IoError) (fs : FileSystem) : Prop :=
  ∃ cause, (((s.writeReport (acc.report s.root s.surroundings.generatedAt time)).refusing
    refusals).run fs).1 = .error cause

namespace Session

variable {o : Options} {around : Surroundings} {refusals : Call → Option IoError}
  {fs : FileSystem} {s : Session}

/-- A session begins unless the run is unprepared. -/
theorem exists_begin_error_iff :
    (∃ failure, (((begin o around).refusing refusals).run fs).1 = .error failure) ↔
      o.Unprepared around refusals fs := by
  rw [Options.Unprepared, Program.run_refusing (begin_readOnly o around),
    Program.run_refusing (Program.directoryExists_readOnly o.root),
    Program.run_refusing (o.configSource around).load_readOnly, begin, Program.answer_bind]
  cases (Program.directoryExists o.root).answer (fs.reply refusals) with
  | false => simp
  | true =>
    simp only [Bool.not_true, Bool.false_eq_true, if_false, Program.answer_bind]
    cases (o.configSource around).load.answer (fs.reply refusals) with
    | error cause => simp
    | ok c? =>
      simp only [Program.answer_pure, ofConfig]
      cases hSettings : Settings.ofConfig o.root c? <;> simp [hSettings]

/-- What a run comes to that begins no session. -/
theorem run_of_begin_error {checking fixing : List Pool.Event} {clock : Program Nat}
    {command : Command} {failure : RunFailure}
    (h : (((begin o around).refusing refusals).run fs).1 = .error failure) :
    ((runAlong checking fixing clock ⟨o, command⟩ around).refusing refusals).run fs =
      (⟨[], .error failure⟩, fs) := by
  have hAnswer : (begin o around).answer (fs.reply refusals) = .error failure := by
    rwa [Program.run_refusing (begin_readOnly o around)] at h
  rw [runAlong, Program.run_refusing_bind (begin_readOnly o around), hAnswer]
  rfl

/-- What a run comes to that begins a session. -/
theorem run_of_begin {checking fixing : List Pool.Event} {clock : Program Nat}
    {command : Command} (h : (((begin o around).refusing refusals).run fs).1 = .ok s) :
    ((runAlong checking fixing clock ⟨o, command⟩ around).refusing refusals).run fs =
      ((s.close clock (((s.account checking fixing command).refusing refusals).run fs).1).refusing
        refusals).run (((s.account checking fixing command).refusing refusals).run fs).2 := by
  have hAnswer : (begin o around).answer (fs.reply refusals) = .ok s := by
    rwa [Program.run_refusing (begin_readOnly o around)] at h
  rw [runAlong, Program.run_refusing_bind (begin_readOnly o around), hAnswer]
  simp only [Program.refusing_bind, Program.run_bind]

/-- How an account is closed. -/
theorem run_close (s : Session) (refusals : Call → Option IoError) (fs : FileSystem) (time : Nat)
    (acc : Account) :
    (∃ e, acc.failure? = some e ∧ ((s.close (pure time) acc).refusing refusals).run fs =
      (⟨s.noticeLines acc, .error (s.failureOf acc e)⟩, fs)) ∨
    acc.failure? = none ∧ ∃ last,
      (last = [] ∨
        last = s.lastLines acc (acc.report s.root s.surroundings.generatedAt time).isSuccess) ∧
      ((s.close (pure time) acc).refusing refusals).run fs =
        (⟨s.noticeLines acc ++ s.treeLines acc ++ s.presentation.cost acc.mode.text time ++ last,
          (((s.writeReport (acc.report s.root s.surroundings.generatedAt time)).refusing
            refusals).run fs).1.map
          fun _ => (acc.report s.root s.surroundings.generatedAt time).isSuccess⟩,
        (((s.writeReport (acc.report s.root s.surroundings.generatedAt time)).refusing
          refusals).run fs).2) := by
  rw [close]
  cases acc.failure? with
  | some e => exact Or.inl ⟨e, rfl, rfl⟩
  | none =>
    refine Or.inr ⟨rfl, ?_⟩
    simp only [pure_bind, Program.refusing_bind, Program.run_bind]
    cases (((s.writeReport _).refusing refusals).run fs).1 with
    | error e => exact ⟨[], Or.inl rfl, by rw [List.append_nil]; rfl⟩
    | ok done => exact ⟨_, Or.inr rfl, rfl⟩

/-- A report that is written can be read. -/
theorem read_of_writeReport {r : RunReport} {path : Path} (hPath : s.reportPath? = some path)
    (h : (((s.writeReport r).refusing refusals).run fs).1 = .ok ()) :
    (((s.writeReport r).refusing refusals).run fs).2.read path =
      .ok (encode r.toJson.render.toList) := by
  rw [writeReport, hPath] at h ⊢
  simp only [Program.refusing_bind, Program.run_bind] at h ⊢
  rw [Program.run_refusing_write] at h ⊢
  cases hRefused : refusals (.write path (encode r.toJson.render.toList)) with
  | some cause =>
    rw [hRefused] at h
    cases h
  | none =>
    rw [hRefused] at h
    cases hWrite : fs.write path (encode r.toJson.render.toList) with
    | error cause =>
      simp only [hWrite] at h
      cases h
    | ok after => exact FileSystem.read_of_write hWrite

end Session

-- ---------------------------------------------------------------------------
-- What the end of a run tells
-- ---------------------------------------------------------------------------

/-- A run is the one along no schedules, in no time. -/
theorem run_runCommand_refusing (a : Arguments) (around : Surroundings)
    (refusals : Call → Option IoError) (fs : FileSystem) :
    ((runCommand a around).refusing refusals).run fs =
      ((runAlong [] [] (pure 0) a around).refusing refusals).run fs := by
  have hClose : ∀ (s : Session) (acc : Account) (fs : FileSystem),
      ((s.close Program.elapsed acc).refusing refusals).run fs =
        ((s.close (pure 0) acc).refusing refusals).run fs := by
    intro s acc fs
    rw [Session.close, Session.close]
    cases acc.failure? with
    | some e => rfl
    | none => rw [Program.refusing_bind, Program.run_bind, Program.run_refusing_elapsed, pure_bind]
  rw [runCommand_eq]
  cases hBegin : (((Session.begin a.options around).refusing refusals).run fs).1 with
  | error failure =>
    rw [Session.run_of_begin_error hBegin, Session.run_of_begin_error hBegin]
  | ok s => rw [Session.run_of_begin hBegin, Session.run_of_begin hBegin, hClose]

/-- A run that ends with these lines, this status and these files says what happened. The status is
2 if the run was unprepared, its tree could not be traversed or its report could not be written. It
is 0 if nothing was found and nothing failed, and else 1. Unless the status is 2, a report that was
asked for is a JSON text that says what the calls returned. -/
structure EndTells (a : Arguments) (around : Surroundings) (checking fixing : List Pool.Event)
    (time : Nat) (refusals : Call → Option IoError) (fs : FileSystem)
    (ended : Transcript × FileSystem) : Prop where
  broken : ended.1.exitStatus = 2 ↔ a.options.Unprepared around refusals fs ∨
    ∃ s acc after, Returns a around checking fixing refusals fs s acc after ∧
      ((∃ w, acc.failure? = some (.walk w)) ∨ s.Unreported acc time refusals after)
  fine   : ended.1.exitStatus = 0 ↔
    ∃ s acc after, Returns a around checking fixing refusals fs s acc after ∧ acc.Fine ∧
      ¬ s.Unreported acc time refusals after
  rest   : ended.1.exitStatus ≠ 2 → ended.1.exitStatus ≠ 0 → ended.1.exitStatus = 1
  report : ended.1.exitStatus ≠ 2 → ∀ path, a.options.reportPath? = some path →
    ∃ s acc after text report, Returns a around checking fixing refusals fs s acc after ∧
      ended.2.read path = .ok (encode text.toList) ∧ Json.Spells text report ∧
      acc.Tells s.root report

section

variable {a : Arguments} {around : Surroundings} {checking fixing : List Pool.Event}
  {time : Nat} {refusals : Call → Option IoError} {fs after after' : FileSystem}
  {s s' : Session} {acc acc' : Account}

/-- The calls of a command return one account. -/
theorem Returns.unique (h : Returns a around checking fixing refusals fs s acc after)
    (h' : Returns a around checking fixing refusals fs s' acc' after') :
    s = s' ∧ acc = acc' ∧ after = after' := by
  obtain rfl : s = s' := Except.ok.inj (h.begins.symm.trans h'.begins)
  obtain ⟨hAccount, hAfter⟩ := Prod.mk.inj (h.calls.symm.trans h'.calls)
  exact ⟨rfl, hAccount, hAfter⟩

theorem Returns.exists_iff (h : Returns a around checking fixing refusals fs s acc after)
    {P : Session → Account → FileSystem → Prop} :
    (∃ s acc after, Returns a around checking fixing refusals fs s acc after ∧ P s acc after) ↔
      P s acc after := by
  constructor
  · rintro ⟨s', acc', after', h', hP⟩
    obtain ⟨rfl, rfl, rfl⟩ := h.unique h'
    exact hP
  · exact fun hP => ⟨s, acc, after, h, hP⟩

/-- A run that is unprepared ends with 2. -/
theorem endTells_of_unprepared {failure : RunFailure}
    (h : (((Session.begin a.options around).refusing refusals).run fs).1 = .error failure) :
    EndTells a around checking fixing time refusals fs (⟨[], .error failure⟩, fs) := by
  have hNone : ∀ s acc after, ¬ Returns a around checking fixing refusals fs s acc after := by
    intro s acc after hReturns
    have hBegins := hReturns.begins
    rw [h] at hBegins
    cases hBegins
  have hUnprepared := Session.exists_begin_error_iff.mp ⟨failure, h⟩
  have hStatus : (2 : UInt8) ≠ 0 := by decide
  refine ⟨iff_of_true rfl (Or.inl hUnprepared), iff_of_false hStatus ?_, ?_, ?_⟩
  · rintro ⟨s, acc, after, hReturns, -⟩
    exact hNone s acc after hReturns
  · exact fun hOther => absurd rfl hOther
  · exact fun hOther => absurd rfl hOther

/-- A run that gets as far as its account says what happened if its end says so of the account. -/
theorem Returns.endTells (h : Returns a around checking fixing refusals fs s acc after)
    {ended : Transcript × FileSystem}
    (hBroken : ended.1.exitStatus = 2 ↔
      (∃ w, acc.failure? = some (.walk w)) ∨ s.Unreported acc time refusals after)
    (hFine : ended.1.exitStatus = 0 ↔ acc.Fine ∧ ¬ s.Unreported acc time refusals after)
    (hRest : ended.1.exitStatus ≠ 2 → ended.1.exitStatus ≠ 0 → ended.1.exitStatus = 1)
    (hReport : ended.1.exitStatus ≠ 2 → ∀ path, s.reportPath? = some path → ∃ text report,
      ended.2.read path = .ok (encode text.toList) ∧ Json.Spells text report ∧
      acc.Tells s.root report) :
    EndTells a around checking fixing time refusals fs ended := by
  have hPrepared : ¬ a.options.Unprepared around refusals fs := by
    rw [← Session.exists_begin_error_iff, h.begins]
    rintro ⟨failure, hError⟩
    cases hError
  refine ⟨hBroken.trans ?_, hFine.trans ?_, hRest, fun hWhole path hPath => ?_⟩
  · exact ((or_iff_right hPrepared).trans (h.exists_iff (P := fun s acc after =>
      (∃ w, acc.failure? = some (.walk w)) ∨ s.Unreported acc time refusals after))).symm
  · exact (h.exists_iff
      (P := fun s acc after => acc.Fine ∧ ¬ s.Unreported acc time refusals after)).symm
  · have hBegin := h.begins
    rw [Program.refusing_eq_failing] at hBegin
    have hSession := (Session.reportPath?_of_begin hBegin).trans hPath
    obtain ⟨text, report, hRead, hSpells, hTells⟩ := hReport hWhole path hSession
    exact ⟨s, acc, after, text, report, h, hRead, hSpells, hTells⟩

/-- A run whose tree cannot be traversed, or whose report cannot be written, says so. -/
theorem Returns.endTells_of_broken (h : Returns a around checking fixing refusals fs s acc after)
    {ended : Transcript × FileSystem} (hStatus : ended.1.exitStatus = 2)
    (hBroken : (∃ w, acc.failure? = some (.walk w)) ∨ s.Unreported acc time refusals after) :
    EndTells a around checking fixing time refusals fs ended := by
  refine h.endTells (iff_of_true hStatus hBroken) ?_ (fun hOther => absurd hStatus hOther)
    fun hOther => absurd hStatus hOther
  rw [hStatus]
  refine iff_of_false (by decide) ?_
  rintro ⟨hFine, hReported⟩
  rcases hBroken with ⟨w, hFailed⟩ | hUnreported
  · rw [Account.failure?_of_fine hFine] at hFailed
    cases hFailed
  · exact hReported hUnreported

/-- A run whose report is written, if one is asked for, ends as the report says. -/
theorem Returns.endTells_of_reported (h : Returns a around checking fixing refusals fs s acc after)
    (hRegular : acc.Regular) (hNone : acc.failure? = none) {lines : List Line}
    (hWritten : (((s.writeReport (acc.report s.root s.surroundings.generatedAt time)).refusing
      refusals).run after).1 = .ok ()) :
    EndTells a around checking fixing time refusals fs
      (⟨lines, .ok (acc.report s.root s.surroundings.generatedAt time).isSuccess⟩,
        (((s.writeReport (acc.report s.root s.surroundings.generatedAt time)).refusing
          refusals).run after).2) := by
  have hReported : ¬ s.Unreported acc time refusals after := by
    rintro ⟨cause, hError⟩
    rw [hWritten] at hError
    cases hError
  have hUnbroken : ¬ ((∃ w, acc.failure? = some (.walk w)) ∨
      s.Unreported acc time refusals after) := by
    rintro (⟨w, hFailed⟩ | hUnreported)
    · rw [hNone] at hFailed
      cases hFailed
    · exact hReported hUnreported
  have hSuccess : (acc.report s.root s.surroundings.generatedAt time).isSuccess = true ↔ acc.Fine :=
    Account.isSuccess_report hNone
  have hReport : ∀ path, s.reportPath? = some path → ∃ text report,
      (((s.writeReport (acc.report s.root s.surroundings.generatedAt time)).refusing
        refusals).run after).2.read path = .ok (encode text.toList) ∧ Json.Spells text report ∧
      acc.Tells s.root report := fun path hPath =>
    ⟨_, _, Session.read_of_writeReport hPath hWritten, Json.spells_render _,
      Account.tells_report hRegular⟩
  cases hEnd : (acc.report s.root s.surroundings.generatedAt time).isSuccess with
  | true =>
    have hWhole : (0 : UInt8) ≠ 2 := by decide
    exact h.endTells (iff_of_false hWhole hUnbroken)
      (iff_of_true rfl ⟨hSuccess.mp hEnd, hReported⟩) (fun _ hOther => absurd rfl hOther)
      fun _ => hReport
  | false =>
    have hWhole : (1 : UInt8) ≠ 2 := by decide
    have hFound : (1 : UInt8) ≠ 0 := by decide
    refine h.endTells (iff_of_false hWhole hUnbroken) (iff_of_false hFound fun hFine => ?_)
      (fun _ _ => rfl) fun _ => hReport
    rw [hSuccess.mpr hFine.1] at hEnd
    cases hEnd

/-- A run that gets as far as its account ends as the account says. -/
theorem endTells_of_returns (h : Returns a around checking fixing refusals fs s acc after) :
    EndTells a around checking fixing time refusals fs
      (((s.close (pure time) acc).refusing refusals).run after) := by
  have hRegular : acc.Regular := by
    have hEnds := (s.account_ends checking fixing a.command).run_refusing refusals fs
    rwa [h.calls] at hEnds
  rcases s.run_close refusals after time acc with ⟨e, hFailed, hRun⟩ | ⟨hNone, last, -, hRun⟩
  · -- the tree could not be traversed
    obtain ⟨w, rfl⟩ := hRegular.failure e hFailed
    rw [hRun]
    exact h.endTells_of_broken rfl (.inl ⟨w, hFailed⟩)
  · rw [hRun]
    cases hWritten : (((s.writeReport (acc.report s.root s.surroundings.generatedAt time)).refusing
        refusals).run after).1 with
    | error cause => exact h.endTells_of_broken rfl (.inr ⟨cause, hWritten⟩)
    | ok done => exact h.endTells_of_reported hRegular hNone hWritten

end

/-- **The end of a run says what happened.** Let calls be refused, let the workers take their steps
along any schedules, and let the run take any time. -/
theorem run_tells (a : Arguments) (around : Surroundings) (refusals : Call → Option IoError)
    (fs : FileSystem) :
    ((runCommand a around).refusing refusals).run fs =
        ((runAlong [] [] (pure 0) a around).refusing refusals).run fs ∧
      ∀ checking fixing time, EndTells a around checking fixing time refusals fs
        (((runAlong checking fixing (pure time) a around).refusing refusals).run fs) := by
  refine ⟨run_runCommand_refusing a around refusals fs, fun checking fixing time => ?_⟩
  cases hBegin : (((Session.begin a.options around).refusing refusals).run fs).1 with
  | error failure =>
    rw [Session.run_of_begin_error hBegin]
    exact endTells_of_unprepared hBegin
  | ok s =>
    rw [Session.run_of_begin hBegin]
    exact endTells_of_returns ⟨hBegin, rfl⟩

end LicenseAudit
