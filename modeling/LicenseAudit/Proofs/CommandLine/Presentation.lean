import LicenseAudit.Proofs.CommandLine.Lines
import LicenseAudit.Proofs.CommandLine.Plain
import LicenseAudit.Proofs.CommandLine.Status
import LicenseAudit.Proofs.FileSystem.Lists

/-!
# Presentation changes nothing but presentation

Two runs whose options differ in how much is printed, in which colours, and in the number of
workers, end alike: with the same status, the same files, the same findings and the same complaints.
Only a report may tell other times.

* `RunReport.timeless`, `FileSystem.SameButTimes` — a report and file systems less what the clock
  tells;
* `EndsAlike` — what two such runs have in common.

## Results

* `complains_close`, `findings_close` — what a closed account complains of, and which files it tells
  of.
* `close_alike` — accounts are closed alike.
* `runs_end_alike` — runs that differ in presentation and workers end alike.
-/

namespace LicenseAudit

open FileSystem Text

/-- The report less what the clock tells. -/
def RunReport.timeless (r : RunReport) : RunReport :=
  { r with generatedAt := "", elapsedMilliseconds := 0 }

/-- The same entries stand in both file systems, but for the times in a report at the path. -/
structure FileSystem.SameButTimes (report? : Option Path) (fs fs' : FileSystem) : Prop where
  start   : fs'.workingDirectory = fs.workingDirectory
  entries : ∀ l, fs'.lookup? l = fs.lookup? l ∨ ∃ path mode r r', report? = some path ∧
    r'.timeless = r.timeless ∧
    fs.find true path = .ok (l, .file (encode (RunReport.toJson r).render.toList) mode) ∧
    fs'.find true path = .ok (l, .file (encode (RunReport.toJson r').render.toList) mode)

theorem FileSystem.Same.sameButTimes {fs fs' : FileSystem} (h : fs.Same fs')
    (report? : Option Path) : SameButTimes report? fs fs' :=
  ⟨h.start, fun l => Or.inl (h.entries l)⟩

/-- Two runs of a command end alike, whatever their presentation. They have the same status and
leave the same entries, but for the times in a report. A check tells of the same files in the same
order. On standard error the same complaints stand in the same order, with codes of styles or
without, and between other lines only where output is verbose. -/
structure EndsAlike (o o' : Options) (command : Command) (ended ended' : Transcript × FileSystem) :
    Prop where
  status     : ended'.1.exitStatus = ended.1.exitStatus
  files      : SameButTimes o.reportPath? ended.2 ended'.2
  findings   : command = .lint →
    ended'.1.allLines.filter Line.isFinding = ended.1.allLines.filter Line.isFinding
  complaints : ∃ complaints, Complains o.volume complaints ended.1.allLines ∧
    Complains o'.volume complaints ended'.1.allLines

-- ---------------------------------------------------------------------------
-- Endings
-- ---------------------------------------------------------------------------

/-- What is said at the end of a run that broke off. -/
def endingComplaints : Ending → List String
  | .ok _ => []
  | .error e => ["ERROR: " ++ String.intercalate ": " e.chain]

namespace Transcript

variable {t t' : Transcript}

theorem exitStatus_congr (h : t'.ending = t.ending) : t'.exitStatus = t.exitStatus := by
  rw [exitStatus, exitStatus, h]

theorem complains_allLines {volume : Volume} {complaints : List String}
    (h : Complains volume complaints t.lines) :
    Complains volume (complaints ++ endingComplaints t.ending) t.allLines := by
  rw [allLines]
  cases t.ending with
  | ok success =>
    rw [endingComplaints, List.append_nil]
    exact h
  | error e => exact h.append (.complaint (.refl _) .nil)

/-- The line about a failure tells of no file. -/
theorem findings_allLines (t : Transcript) :
    t.allLines.filter Line.isFinding = t.lines.filter Line.isFinding := by
  rw [allLines]
  cases t.ending with
  | ok success => rfl
  | error e =>
    rw [List.filter_append]
    exact List.append_nil _

end Transcript

-- ---------------------------------------------------------------------------
-- Closed accounts
-- ---------------------------------------------------------------------------

namespace Session

variable {s s' : Session} {acc : Account} {refusals : Call → Option IoError} {fs fs' : FileSystem}
  {time time' : Nat}

/-- An account is closed with its complaints. -/
theorem complains_close (s : Session) (refusals : Call → Option IoError) (time : Nat)
    (acc : Account) (fs : FileSystem) :
    Complains s.presentation.volume
      (acc.noticeComplaints ++ acc.treeComplaints s.root ++
        endingComplaints (((s.close (pure time) acc).refusing refusals).run fs).1.ending)
      (((s.close (pure time) acc).refusing refusals).run fs).1.allLines := by
  refine Transcript.complains_allLines ?_
  have hNotice := s.complains_noticeLines acc
  rcases s.run_close refusals fs time acc with ⟨e, hFailed, hRun⟩ | ⟨-, last, hLast, hRun⟩
  · have hTree : acc.treeComplaints s.root = [] := by
      rw [Account.treeComplaints, Account.failures_of_failure? hFailed, List.map_nil]
    rw [hRun, hTree, List.append_nil]
    exact hNotice
  · rw [hRun]
    have hLastLines : Complains s.presentation.volume [] last := by
      rcases hLast with rfl | rfl
      · exact .nil
      · exact s.complains_lastLines acc _
    have hCost : Complains s.presentation.volume []
        (s.presentation.cost acc.mode.text time) := s.presentation.complains_remark _
    have hAll := ((hNotice.append (s.complains_treeLines acc)).append hCost).append hLastLines
    rwa [List.append_nil, List.append_nil] at hAll

/-- The account of a check is closed with its findings. -/
theorem findings_close (s : Session) (refusals : Call → Option IoError) (time : Nat)
    (notice : Except NoticeError Unit) (tree : Except AuditError CheckOutcome) (fs : FileSystem) :
    (((s.close (pure time) (.checked notice tree)).refusing refusals).run fs).1.allLines.filter
        Line.isFinding =
      Presentation.missingFiles s.root (Account.checked notice tree).missing := by
  rw [Transcript.findings_allLines]
  rcases s.run_close refusals fs time (.checked notice tree) with
    ⟨e, hFailed, hRun⟩ | ⟨-, last, hLast, hRun⟩
  · rw [hRun, s.findings_noticeLines, Account.missing_of_failure? hFailed]
    rfl
  · have hLastLines : last.filter Line.isFinding = [] := by
      rcases hLast with rfl | rfl
      · rfl
      · exact s.findings_lastLines notice tree _
    rw [hRun]
    simp only [List.filter_append, s.findings_noticeLines, s.findings_treeLines,
      Presentation.findings_cost, hLastLines, List.nil_append, List.append_nil]

/-- A report is written alike, whatever its times. -/
theorem writeReport_alike (hBlind : Blind refusals) (hPath : s'.reportPath? = s.reportPath?)
    (hSame : fs.Same fs') {r r' : RunReport} (hReport : r'.timeless = r.timeless) :
    (((s'.writeReport r').refusing refusals).run fs').1 =
        (((s.writeReport r).refusing refusals).run fs).1 ∧
      SameButTimes s.reportPath? (((s.writeReport r).refusing refusals).run fs).2
        (((s'.writeReport r').refusing refusals).run fs').2 := by
  rw [writeReport, writeReport, hPath]
  cases s.reportPath? with
  | none => exact ⟨rfl, hSame.sameButTimes none⟩
  | some path =>
    simp only [Program.refusing_bind, Program.run_bind, Program.run_refusing_write,
      hBlind path (encode r.toJson.render.toList) (encode r'.toJson.render.toList)]
    cases refusals (.write path (encode r.toJson.render.toList)) with
    | some cause => exact ⟨rfl, hSame.sameButTimes _⟩
    | none =>
      obtain ⟨cause, hWrite, hWrite'⟩ | ⟨after, after', hWrite, hWrite', hBut⟩ :=
        hSame.write_cases path (encode r.toJson.render.toList) (encode r'.toJson.render.toList)
      · rw [hWrite, hWrite']
        exact ⟨rfl, hSame.sameButTimes _⟩
      · rw [hWrite, hWrite']
        refine ⟨rfl, hBut.start, fun l => (hBut.entries l).imp_right ?_⟩
        rintro ⟨mode, hFind, hFind'⟩
        exact ⟨path, mode, r, r', rfl, hReport, hFind, hFind'⟩

/-- An account is closed alike by sessions that differ in presentation and workers. -/
theorem close_alike (hBlind : Blind refusals) (hPlain : s'.plain = s.plain) (hSame : fs.Same fs')
    (acc : Account) (time time' : Nat) :
    (((s'.close (pure time') acc).refusing refusals).run fs').1.ending =
        (((s.close (pure time) acc).refusing refusals).run fs).1.ending ∧
      SameButTimes s.reportPath? (((s.close (pure time) acc).refusing refusals).run fs).2
        (((s'.close (pure time') acc).refusing refusals).run fs').2 := by
  have hRoot := root_of_plain hPlain
  rcases s.run_close refusals fs time acc with ⟨e, hFailed, hRun⟩ | ⟨hNone, last, -, hRun⟩
  · rcases s'.run_close refusals fs' time' acc with ⟨e', hFailed', hRun'⟩ | ⟨hNone', -⟩
    · obtain rfl : e' = e := Option.some.inj (hFailed'.symm.trans hFailed)
      have hFailure : s'.failureOf acc e' = s.failureOf acc e' := by
        cases acc <;> simp only [failureOf, hRoot]
      rw [hRun, hRun', hFailure]
      exact ⟨rfl, hSame.sameButTimes _⟩
    · rw [hFailed] at hNone'
      cases hNone'
  · rcases s'.run_close refusals fs' time' acc with ⟨e', hFailed', -⟩ | ⟨-, last', -, hRun'⟩
    · rw [hNone] at hFailed'
      cases hFailed'
    · have hReport : (acc.report s'.root s'.surroundings.generatedAt time').timeless =
          (acc.report s.root s.surroundings.generatedAt time).timeless := by
        rw [hRoot]
        rfl
      obtain ⟨hReply, hFiles⟩ :=
        writeReport_alike hBlind (reportPath?_of_plain hPlain) hSame hReport
      have hSuccess : (acc.report s'.root s'.surroundings.generatedAt time').isSuccess =
          (acc.report s.root s.surroundings.generatedAt time).isSuccess := by
        rw [hRoot]
        rfl
      rw [hRun, hRun', hReply, hSuccess]
      exact ⟨rfl, hFiles⟩

-- ---------------------------------------------------------------------------
-- Whole runs
-- ---------------------------------------------------------------------------

variable {o o' : Options} {around around' : Surroundings} {command : Command}

/-- What a session takes over from the options. -/
theorem presentation_of_begin (h : (((begin o around).refusing refusals).run fs).1 = .ok s) :
    s.presentation.volume = o.volume ∧ s.tag = around.tag ∧ s.reportPath? = o.reportPath? := by
  rw [Program.refusing_eq_failing] at h
  obtain ⟨c?, hOf⟩ := exists_ofConfig_of_begin h
  obtain ⟨hSurroundings, hPath, -⟩ := ofConfig_eq_ok hOf
  refine ⟨?_, congrArg Surroundings.tag hSurroundings, hPath⟩
  unfold ofConfig at hOf
  split at hOf
  · cases hOf
  · cases hOf
    rfl

/-- Sessions that differ in presentation and workers end a command alike. -/
theorem endsAlike_close (hBlind : Blind refusals) (hPlain : s'.plain = s.plain)
    (hSame : fs.Same fs') (hCommand : command = .lint → ∃ notice tree, acc = .checked notice tree)
    (hVolume : s.presentation.volume = o.volume) (hVolume' : s'.presentation.volume = o'.volume)
    (hPath : s.reportPath? = o.reportPath?) :
    EndsAlike o o' command (((s.close (pure time) acc).refusing refusals).run fs)
      (((s'.close (pure time') acc).refusing refusals).run fs') := by
  obtain ⟨hEnding, hFiles⟩ := close_alike hBlind hPlain hSame acc time time'
  have hRoot := root_of_plain hPlain
  rw [hPath] at hFiles
  refine ⟨Transcript.exitStatus_congr hEnding, hFiles, fun hLint => ?_, ?_⟩
  · obtain ⟨notice, tree, rfl⟩ := hCommand hLint
    rw [s.findings_close, s'.findings_close, hRoot]
  · have hSays := s.complains_close refusals time acc fs
    have hSays' := s'.complains_close refusals time' acc fs'
    rw [hEnding, hRoot, hVolume'] at hSays'
    rw [hVolume] at hSays
    exact ⟨_, hSays, hSays'⟩

/-- A check returns the account of a check. -/
theorem exists_checked (s : Session) (checking fixing : List Pool.Event)
    (refusals : Call → Option IoError) (fs : FileSystem) :
    ∃ notice tree,
      (((s.account checking fixing .lint).refusing refusals).run fs).1 = .checked notice tree := by
  simp only [account, Program.refusing_bind, Program.run_bind, Program.refusing_pure,
    Program.run_pure]
  exact ⟨_, _, rfl⟩

/-- Runs that begin no session for the same reason end alike. -/
theorem endsAlike_of_error (failure : RunFailure) (fs : FileSystem) :
    EndsAlike o o' command (⟨[], .error failure⟩, fs) (⟨[], .error failure⟩, fs) :=
  ⟨rfl, (Same.refl fs).sameButTimes _, fun _ => rfl,
    ⟨_, .complaint (.refl _) .nil, .complaint (.refl _) .nil⟩⟩

variable {checking fixing checking' fixing' : List Pool.Event}

/-- Runs that differ in presentation and workers end alike, along schedules and in any time. -/
theorem runAlong_alike (hTree : fs.WellFormed) (hPermission : ByPermission refusals)
    (hOptions : o'.plain = o.plain) (hAround : around'.plain = around.plain)
    (hClear : command = .fix everything → fs.Uncluttered around.tag) :
    EndsAlike o o' command
      (((runAlong checking fixing (pure time) ⟨o, command⟩ around).refusing refusals).run fs)
      (((runAlong checking' fixing' (pure time') ⟨o', command⟩ around').refusing refusals).run
        fs) := by
  have hBegin := run_begin_plain hOptions hAround refusals fs
  cases hFirst : (((begin o around).refusing refusals).run fs).1 with
  | error failure =>
    cases hSecond : (((begin o' around').refusing refusals).run fs).1 with
    | ok s' =>
      rw [hFirst, hSecond] at hBegin
      cases hBegin
    | error failure' =>
      rw [hFirst, hSecond] at hBegin
      obtain rfl : failure' = failure := Except.error.inj hBegin
      rw [run_of_begin_error hFirst, run_of_begin_error hSecond]
      exact endsAlike_of_error failure' fs
  | ok s =>
    cases hSecond : (((begin o' around').refusing refusals).run fs).1 with
    | error failure' =>
      rw [hFirst, hSecond] at hBegin
      cases hBegin
    | ok s' =>
      rw [hFirst, hSecond] at hBegin
      have hPlain : s'.plain = s.plain := Except.ok.inj hBegin
      obtain ⟨hVolume, hTag, hPath⟩ := presentation_of_begin hFirst
      obtain ⟨hVolume', hTag', -⟩ := presentation_of_begin hSecond
      have hSameTag : around'.plain.tag = around.plain.tag := congrArg Surroundings.tag hAround
      -- both sessions return what the plain one returns
      obtain ⟨hAccount, hFiles⟩ := run_account_plain (s := s) hTree hPermission
        (hTag ▸ hClear) checking fixing
      obtain ⟨hAccount', hFiles'⟩ := run_account_plain (s := s') hTree hPermission
        ((hTag'.trans hSameTag) ▸ hClear) checking' fixing'
      rw [hPlain] at hAccount' hFiles'
      rw [run_of_begin hFirst, run_of_begin hSecond, hAccount, hAccount']
      refine endsAlike_close hPermission.blind hPlain (hFiles.trans hFiles'.symm) ?_ hVolume
        hVolume' hPath
      rintro rfl
      exact s.plain.exists_checked [] [] refusals fs

end Session

/-- A tree with an old notice document and a file without header. -/
def neglectedTree : FileSystem :=
  ⟨[(["NOTICE", "t"], .file (encode "Copyright 2018-2023\n".toList) 0o644),
    (["a.go", "t"], .file (encode "package a\n".toList) 0o644),
    (["t"], .directory 0o755)], []⟩

/-- Options of a run with one worker that prints little and writes a report. -/
def quietOptions : Options where
  root? := some ⟨"t"⟩
  noConfig := true
  year? := some 2025
  jobs? := some 1
  quiet := true
  reportPath? := some ⟨"r.json"⟩

/-- The same options with four workers and with much to print, in colours. -/
def loudOptions : Options :=
  { quietOptions with jobs? := some 4, verbosity := 2, quiet := false, colors? := some .always }

/-- Where the quiet run takes place. -/
def quietAround : Surroundings := ⟨none, 2025, "", 1, 7, false, false⟩

/-- Where the loud run takes place. -/
def loudAround : Surroundings := ⟨none, 2025, "2025-01-01 00:00:00", 8, 7, true, true⟩

theorem wellFormed_neglectedTree : neglectedTree.WellFormed :=
  .of_entries (by decide) (by decide)

theorem vacant_neglectedTree (n : String) (tag : Nat) (dir : Location) :
    neglectedTree.lookup? (temporaryName n tag :: dir) = none := by
  rw [Option.eq_none_iff_forall_ne_some]
  intro entry hEntry
  have hMem := (wellFormed_neglectedTree.lookup?_eq_some_iff (List.cons_ne_nil _ _)).mp hEntry
  have hLast := temporaryName_getLast? n tag
  simp only [neglectedTree, List.mem_cons, Prod.mk.injEq, List.cons.injEq, List.not_mem_nil,
    or_false] at hMem
  rcases hMem with ⟨⟨hName, -⟩, -⟩ | ⟨⟨hName, -⟩, -⟩ | ⟨⟨hName, -⟩, -⟩ <;>
  · rw [hName] at hLast
    exact absurd hLast (by decide)

/-- The file without header may not be written. -/
def sealedFile (c : Call) : Option IoError :=
  match c with
  | .write p _ => if p = Path.temporarySibling ⟨"t/a.go"⟩ 7 then some (.system 13) else none
  | _ => none

/-- A tree in which an earlier run has left a temporary file, and a configuration under which such
files take headers. -/
def litteredTree : FileSystem :=
  ⟨[(["NOTICE", "t"], .file (encode "2018-2025\n".toList) 0o644),
    (["c.toml"], .file (encode "[comment-styles.tmp]\nmiddle = \"# \"\n".toList) 0o644),
    ([".a.go.asflint-7.tmp", "t"], .file (encode "x\n".toList) 0o644),
    (["a.go", "t"], .file (encode "package a\n".toList) 0o644),
    (["t"], .directory 0o755)], []⟩

/-- Options of a run with so many workers. -/
def litteredOptions (jobs : Nat) : Options where
  root? := some ⟨"t"⟩
  config? := some ⟨"c.toml"⟩
  year? := some 2025
  jobs? := some jobs

/-- The configuration in force. -/
def litteredConfig : Config :=
  ⟨⟨none, none, none, none, none, [], [], [("tmp", .line "# ")], []⟩, none⟩

/-- The session of such a run. -/
def litteredSession (jobs : Nat) : Session where
  settings := ⟨⟨"t"⟩, ⟨"t/NOTICE"⟩, 2018, defaultMarker, some jobs, .builtin⟩
  registry := ⟨defaultLicenseText, [("tmp", .line "# ")], []⟩
  year := 2025
  reportPath? := none
  presentation := (litteredOptions jobs).presentation quietAround
  surroundings := quietAround

theorem wellFormed_litteredTree : litteredTree.WellFormed := .of_entries (by decide) (by decide)

theorem begin_littered (jobs : Nat) :
    ((Session.begin (litteredOptions jobs) quietAround).run litteredTree).1 =
      .ok (litteredSession jobs) := by
  have hParse : Config.parse "[comment-styles.tmp]\nmiddle = \"# \"\n" ⟨"c.toml"⟩ =
      .ok litteredConfig := by decide +kernel
  have hLoad : (((litteredOptions jobs).configSource quietAround).load.run litteredTree).1 =
      .ok (some litteredConfig) := by
    refine ConfigSource.load_eq_ok_iff.mpr (Or.inr ⟨⟨"c.toml"⟩, litteredConfig, rfl, ?_, rfl⟩)
    exact Config.load_eq_ok_iff.mpr ⟨_, _, rfl, hParse, Config.loadHeader_eq_ok_iff.mpr
      (Or.inl ⟨rfl, rfl⟩)⟩
  have hRoot : ((Program.directoryExists ⟨"t"⟩).run litteredTree).1 = true := by decide
  have hLower : Text.lowercaseString "tmp" = "tmp" := by decide
  have hJoin : (⟨"t"⟩ : Path).join defaultNoticeFile = ⟨"t/NOTICE"⟩ := by decide
  have hOf : Session.ofConfig (litteredOptions jobs) quietAround (some litteredConfig) =
      .ok (litteredSession jobs) := by
    simp [Session.ofConfig, Settings.ofConfig, litteredConfig, Exclusions.parse_nil,
      litteredSession, Registry.ofConfig, Registry.builtin, Registry.withExtensionStyle,
      litteredOptions, Options.root, Options.overrideSettings, firstOf, Config.marker,
      defaultStartYear, hJoin, hLower]
  exact Session.begin_eq_ok_iff.mpr ⟨hRoot, _, hLoad, hOf⟩

theorem list_litteredTree : litteredTree.list ⟨"t"⟩ =
    .ok [(".a.go.asflint-7.tmp", .file), ("NOTICE", .file), ("a.go", .file)] := by
  have hFind : litteredTree.find true ⟨"t"⟩ = .ok (["t"], .directory 0o755) := by decide
  have hChildren : litteredTree.children ["t"] =
      [(".a.go.asflint-7.tmp", .file (encode "x\n".toList) 0o644),
        ("NOTICE", .file (encode "2018-2025\n".toList) 0o644),
        ("a.go", .file (encode "package a\n".toList) 0o644)] := by
    refine eq_of_increasing
      (FileSystem.increasing_children wellFormed_litteredTree ["t"]) ?_ ?_
    · have hNames : [".a.go.asflint-7.tmp", "NOTICE", "a.go"].Pairwise (· < ·) := by decide
      exact List.pairwise_map.mp hNames
    · exact fun entry => ((List.mergeSort_perm _ _).trans (List.Perm.swap _ _ _)).mem_iff
  rw [FileSystem.list, hFind]
  simp [hChildren, bind, Except.bind, Entry.status]

/-- The files that take a header. -/
def litteredFiles : List Path := [⟨"t/.a.go.asflint-7.tmp"⟩, ⟨"t/a.go"⟩]

theorem eligible_littered (jobs : Nat) :
    (((litteredSession jobs).engine.eligible ⟨"t"⟩).run litteredTree).1 = .ok litteredFiles := by
  have hStatus : litteredTree.linkStatus ⟨"t"⟩ = .ok ⟨.directory, 0o755⟩ := by decide
  have hEnters : (((litteredSession jobs).engine.selection.descends ⟨"t"⟩).run litteredTree) =
      (true, litteredTree) := rfl
  have hLeft : (((litteredSession jobs).engine.selection.includes
      ⟨"t/.a.go.asflint-7.tmp"⟩).run litteredTree).1 = true := rfl
  have hNotice : (((litteredSession jobs).engine.selection.includes
      ⟨"t/NOTICE"⟩).run litteredTree).1 = false := rfl
  have hSource : (((litteredSession jobs).engine.selection.includes
      ⟨"t/a.go"⟩).run litteredTree).1 = true := rfl
  have hStay : ∀ p, ((Walk.report (litteredSession jobs).engine.selection p).run
      litteredTree).2 = litteredTree :=
    fun p => Program.run_snd_of_readOnly (Walk.report_surveys _ _).readOnly _
  have hJoin : (⟨"t"⟩ : Path).join ⟨".a.go.asflint-7.tmp"⟩ = ⟨"t/.a.go.asflint-7.tmp"⟩ ∧
      (⟨"t"⟩ : Path).join ⟨"NOTICE"⟩ = ⟨"t/NOTICE"⟩ ∧
      (⟨"t"⟩ : Path).join ⟨"a.go"⟩ = ⟨"t/a.go"⟩ := by decide
  have hInside : ((Walk.inside (litteredSession jobs).engine.selection pathLimit ⟨"t"⟩).run
      litteredTree).1 = .ok litteredFiles := by
    rw [show pathLimit = 4095 + 1 from rfl, Walk.inside]
    simp [list_litteredTree, Walk.visitAll, hJoin, Walk.report_run, hLeft, hNotice, hSource, hStay,
      litteredFiles]
  simp [Engine.eligible, walk, Walk.fromRoot, hStatus, hEnters, hInside]

theorem fixNotice_littered : (Notice.fix 7 ⟨⟨"t/NOTICE"⟩, 2018⟩ 2025).run litteredTree =
    (.ok ⟨2025, 2025⟩, litteredTree) := by
  have hReply : ((Notice.fix 7 ⟨⟨"t/NOTICE"⟩, 2018⟩ 2025).run litteredTree).1 =
      .ok ⟨2025, 2025⟩ := by decide +kernel
  have hEntries : ((Notice.fix 7 ⟨⟨"t/NOTICE"⟩, 2018⟩ 2025).run litteredTree).2.entries =
      litteredTree.entries := by decide +kernel
  have hStart : ((Notice.fix 7 ⟨⟨"t/NOTICE"⟩, 2018⟩ 2025).run litteredTree).2.workingDirectory =
      litteredTree.workingDirectory := by decide +kernel
  generalize (Notice.fix 7 ⟨⟨"t/NOTICE"⟩, 2018⟩ 2025).run litteredTree = x at *
  obtain ⟨reply, fs⟩ := x
  cases fs
  simp only at hReply hEntries hStart
  rw [hReply, hEntries, hStart]

/-- A repair succeeds if nothing is refused. -/
theorem Engine.isSuccess_collectFixes (answers : List (Path × Except FileError FixOutcome)) :
    (Engine.collectFixes [] answers).isSuccess = (answers.filterMap Engine.refused?).isEmpty := by
  rw [Engine.collectFixes_eq, FixAllOutcome.isSuccess, List.nil_append, FileError.sorted,
    Bool.eq_iff_iff, List.isEmpty_iff_length_eq_zero, List.isEmpty_iff_length_eq_zero,
    List.length_mergeSort]

/-- Both files lack the marker. -/
theorem check_littered (jobs : Nat) :
    ∃ c, ((litteredSession jobs).engine.check ⟨"t"⟩ []).run litteredTree = (.ok c, litteredTree) ∧
      c.missing = litteredFiles ∧ c.failures = [] := by
  have hOrdered : litteredFiles.Pairwise fun p q => p.key < q.key := by decide +kernel
  have hVerdict : ∀ p ∈ litteredFiles,
      (litteredSession jobs).engine.verdict p (litteredTree.read p) = .ok false := by
    have hLeft : carries (encode "x\n".toList) defaultMarker = false := by decide +kernel
    have hSource : carries (encode "package a\n".toList) defaultMarker = false := by decide +kernel
    intro p hMem
    rcases List.mem_cons.mp hMem with rfl | hMem
    · exact congrArg Except.ok hLeft
    · obtain rfl := List.mem_singleton.mp hMem
      exact congrArg Except.ok hSource
  obtain ⟨c, hCheck, hReports⟩ :=
    Engine.exists_run_check wellFormed_litteredTree (eligible_littered jobs) []
  refine ⟨c, hCheck, ?_, List.eq_nil_iff_forall_not_mem.mpr fun x hMem => ?_⟩
  · exact eq_of_increasing hReports.increasing hOrdered fun p =>
      (hReports.missing p).trans ⟨fun h => h.1, fun hMem => ⟨hMem, hVerdict p hMem⟩⟩
  · obtain ⟨p, hFile, hFails⟩ := (hReports.failures x).mp hMem
    cases (hVerdict p hFile).symm.trans hFails

section

variable {jobs : Nat} {fixing : List Pool.Event}
  {answers : List (Path × Except FileError FixOutcome)}
  (hPool : ((Pool.run fixing jobs litteredFiles fun p =>
    some <$> (litteredSession jobs).engine.repair p).run litteredTree).1 = .results answers)

include hPool

/-- The calls of such a run return what the repairs of its pool answer. -/
theorem account_littered :
    (((litteredSession jobs).account [] fixing (.fix Session.everything)).run litteredTree).1 =
      .repaired (.ok ⟨2025, 2025⟩) (.ok (Engine.collectFixes [] answers)) := by
  obtain ⟨c, hCheck, hMissing, hFailures⟩ := check_littered jobs
  have hFixAll : (((litteredSession jobs).engine.fixAll ⟨"t"⟩ [] fixing).run litteredTree).1 =
      .ok (Engine.collectFixes [] answers) := by
    have hJobs : (litteredSession jobs).engine.jobs = jobs := rfl
    generalize hRun : (Pool.run fixing jobs litteredFiles fun p =>
      some <$> (litteredSession jobs).engine.repair p).run litteredTree = x at hPool
    obtain ⟨outcome, fs'⟩ := x
    obtain rfl : outcome = .results answers := hPool
    simp only [Engine.fixAll, Program.run_bind, hCheck, hJobs, hMissing, hRun, hFailures]
    rfl
  have hNotice : ((litteredSession jobs).notice.fix (litteredSession jobs).tag
      (litteredSession jobs).year).run litteredTree = (.ok ⟨2025, 2025⟩, litteredTree) :=
    fixNotice_littered
  have hRoot : (litteredSession jobs).root = ⟨"t"⟩ := rfl
  simp only [Session.account, if_true, Program.run_bind, hNotice, hRoot, hFixAll]
  rfl

/-- Such a run exits with 0 if no repair of its pool has failed, and otherwise with 1. -/
theorem exit_littered :
    ((runAlong [] fixing (pure 0) ⟨litteredOptions jobs, .fix Session.everything⟩
      quietAround).run litteredTree).1.exitStatus =
        if (answers.filterMap Engine.refused?).isEmpty then 0 else 1 := by
  have hRun : ((runAlong [] fixing (pure 0) ⟨litteredOptions jobs, .fix Session.everything⟩
      quietAround).refusing fun _ => none).run litteredTree = _ :=
    Session.run_of_begin (by rw [Program.refusing_none]; exact begin_littered jobs)
  simp only [Program.refusing_none] at hRun
  rw [hRun, account_littered hPool]
  rcases (litteredSession jobs).run_close (fun _ => none) _ 0
    (.repaired (.ok ⟨2025, 2025⟩) (.ok (Engine.collectFixes [] answers))) with
    ⟨e, hFailed, -⟩ | ⟨hNone, last, -, hClose⟩
  · cases hFailed
  · rw [Program.refusing_none] at hClose
    rw [hClose]
    have hSuccess : (Account.report (.repaired (.ok ⟨2025, 2025⟩)
        (.ok (Engine.collectFixes [] answers))) (litteredSession jobs).root
        (litteredSession jobs).surroundings.generatedAt 0).isSuccess =
        (answers.filterMap Engine.refused?).isEmpty := by
      rw [Bool.eq_iff_iff, Account.isSuccess_report hNone]
      simp [Account.Fine, Engine.isSuccess_collectFixes]
    rw [hSuccess]
    cases (answers.filterMap Engine.refused?).isEmpty <;> rfl

end

/-- The worker that repairs the source file is ready before the other one begins. -/
def overtaking : List Pool.Event :=
  [.send, .send, .close, .acquire 0, .receive 0, .acquire 1, .receive 1,
    .work 1, .work 1, .work 1, .work 1, .work 1, .work 1]

end LicenseAudit
