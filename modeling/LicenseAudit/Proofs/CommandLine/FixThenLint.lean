import LicenseAudit.Proofs.CommandLine.Exit
import LicenseAudit.Proofs.CommandLine.Session
import LicenseAudit.Proofs.Header.Text

/-!
# A repair of everything, and a check after it

A repair of everything updates the notice document first and puts headers into files afterwards. A
check that follows is clean if neither step spoils what the other one or the next run relies on.
The steps can get in each other's way: the notice document may be a source file that takes a header
with a range of years in it, and the configuration may be one of the repaired files.

* `Engine.Wants` — the files that a repair of a tree gives headers to, and the headers;
* `Session.SparesConfiguration`, `Session.SparesNotice` — these headers do not spoil the one
  document or the other;
* `Session.Repairs` — a repair of everything exits with 0, and the new year leaves the session as it
  is.

## Results

* `Notice.Current.mends` — a current notice document is current after a repair that spares it.
* `Repairs.exit_lint_iff_current` — a check after such a run passes exactly where the notice
  document is current.
* `exit_lint_of_exit_fix` — where both documents are spared the check exits with 0.
* `exit_lint_ne_of_dated_header` — a header with a range of its own in front of the notice document
  makes the check fail.
-/

namespace LicenseAudit

open Text

/-- A repair of the tree gives this header to the file: the file is eligible and lacks the
marker. -/
def Engine.Wants (e : Engine) (fs : FileSystem) (root p : Path) (header : String) : Prop :=
  ∃ files, ((e.eligible root).run fs).1 = .ok files ∧ p ∈ files ∧
    e.Lacks (fs.read p) ∧ e.headers.headerFor? p = some header

/-- If the configuration file receives a header, it is a comment there, and no byte order mark comes
to stand behind it. -/
def Session.SparesConfiguration (s : Session) (source : ConfigSource) (fs : FileSystem) : Prop :=
  ∀ path, source.file? fs = some path → ∀ p header, s.engine.Wants fs s.root p header →
    fs.EndsAt path p → ∀ content, fs.read path = .ok content → Config.Admits content header

/-- If the notice document receives a header, no range in it begins with the first year of the
notice and ends with another year than the wanted one. -/
def Session.SparesNotice (s : Session) (fs : FileSystem) : Prop :=
  ∀ p header, s.engine.Wants fs s.root p header → fs.EndsAt s.notice.path p →
    ∀ last, YearRange.lastYear? s.notice.startYear header.toList = some last → (last : Int) = s.year

-- ---------------------------------------------------------------------------
-- The notice document
-- ---------------------------------------------------------------------------

namespace Notice

open YearRange

variable {n : Notice} {year : Int} {e : Engine} {files : List Path} {o : FixAllOutcome}
  {fs fs' : FileSystem}

/-- A current notice document is current after a repair, if a header that it receives holds no other
last year. -/
theorem Current.mends (hCurrent : n.Current fs year) (h : e.Mends (fun _ => none) files o fs fs')
    (hStart : isFourDigitYear n.startYear = true)
    (hHeader : ∀ p ∈ o.fixed, fs.EndsAt n.path p → ∀ header,
      e.headers.headerFor? p = some header →
      ∀ last, lastYear? n.startYear header.toList = some last → (last : Int) = year) :
    n.Current fs' year := by
  obtain ⟨cs, hRead, hYear⟩ := hCurrent
  rcases h.read_cases hRead with hSame | ⟨p, hMem, hEnds, -, header, hFor, hRead'⟩
  · exact ⟨cs, hSame, hYear⟩
  · obtain ⟨last, hLast, hLastYear⟩ := Option.map_eq_some_iff.mp hYear
    obtain ⟨cs', hInserted, hHeaded⟩ := exists_headed cs header.toList
    have hOther : lastYear? n.startYear header.toList = none ∨
        lastYear? n.startYear header.toList = some last := by
      cases hFound : lastYear? n.startYear header.toList with
      | none => exact Or.inl rfl
      | some found =>
        have hFoundYear : (found : Int) = year := hHeader p hMem hEnds header hFor found hFound
        have hSameYear : (last : Int) = year := hLastYear
        exact Or.inr (congrArg some (by omega))
    rw [hInserted] at hRead'
    refine ⟨cs', hRead', ?_⟩
    rw [hHeaded.lastYear?_eq hStart hLast hOther, Option.map_some, hLastYear]

/-- A header in front of the notice document whose range ends with another year makes it
outdated. -/
theorem not_current_of_fixed (h : e.Mends (fun _ => none) files o fs fs')
    (hStart : isFourDigitYear n.startYear = true) {p : Path} {header : String} {cs : List Char}
    (hMem : p ∈ o.fixed) (hEnds : fs.EndsAt n.path p)
    (hHeader : e.headers.headerFor? p = some header)
    (hRead : fs.read n.path = .ok (encode cs)) (hFront : Declaration.split? (encode cs) = none)
    {last : Nat} (hLast : lastYear? n.startYear header.toList = some last)
    (hOther : (last : Int) ≠ year) : ¬ n.Current fs' year := by
  rintro ⟨cs', hRead', hYear⟩
  obtain ⟨-, hAfter⟩ := h.read_of_fixed hMem hEnds hHeader hRead
  rw [insertHeader_front hFront] at hAfter
  obtain rfl := encode_injective (Except.ok.inj (hRead'.symm.trans hAfter))
  rw [lastYear?_front hStart, hLast, Option.some_or, Option.map_some] at hYear
  exact hOther (Option.some.inj hYear)

end Notice

namespace Session

variable {o : Options} {around around' : Surroundings} {s : Session} {fs fs' : FileSystem}
  {files : List Path} {outcome : FixAllOutcome}

-- ---------------------------------------------------------------------------
-- The check after a repair of the tree
-- ---------------------------------------------------------------------------

/-- Every fixed file wanted a header. -/
theorem wants_of_fixed (hFiles : ((s.engine.eligible s.root).run fs).1 = .ok files)
    (h : s.engine.Mends (fun _ => none) files outcome fs fs') {p : Path} (hMem : p ∈ outcome.fixed)
    {header : String} (hHeader : s.engine.headers.headerFor? p = some header) :
    s.engine.Wants fs s.root p header := by
  obtain ⟨hFile, hLacks⟩ := h.fixed p hMem
  exact ⟨files, hFiles, hFile, hLacks, hHeader⟩

/-- After a repair that spares the configuration the session begins again, in the surroundings of
the later run. -/
theorem begin_mends {year : Int} (hYear : o.year? = some year)
    (hEnvironment : around'.configVariable? = around.configVariable?)
    (hBegin : ((begin o around).run fs).1 = .ok s)
    (hFiles : ((s.engine.eligible s.root).run fs).1 = .ok files)
    (h : s.engine.Mends (fun _ => none) files outcome fs fs')
    (hSpares : s.SparesConfiguration (o.configSource around) fs) :
    ((begin o around').run fs').1 = .ok (s.moved o around') := by
  obtain ⟨hRoot, c?, hLoad, hOf⟩ := begin_eq_ok_iff.mp hBegin
  obtain ⟨-, -, -, -, hMarker, -⟩ := ofConfig_eq_ok hOf
  have hSource : o.configSource around' = o.configSource around := by
    rw [Options.configSource, Options.configSource, hEnvironment]
  refine begin_eq_ok_iff.mpr ⟨?_, c?, ?_, ofConfig_moved hYear hOf⟩
  · rw [Program.run_directoryExists] at hRoot ⊢
    rwa [h.alike.status]
  · rw [hSource]
    refine ConfigSource.load_again (ConfigSource.file?_congr h.alike _) ?_ hLoad
    intro path c hFile hConfig hOne
    have hMarker' : s.engine.marker = c.marker := by
      rw [hConfig] at hMarker
      exact hMarker
    refine Config.load_mends h hMarker' hOne fun p hMem hEnds header hHeader content hRead => ?_
    exact hSpares path hFile p header (wants_of_fixed hFiles h hMem hHeader) hEnds content hRead

/-- After a repair without failures everything is in order exactly where the notice document is. -/
theorem orderly_mends_iff (hTree : fs.WellFormed) (hTree' : fs'.WellFormed)
    (hMarker : s.registry.Carries s.settings.marker)
    (hFiles : ((s.engine.eligible s.root).run fs).1 = .ok files)
    (h : s.engine.Mends (fun _ => none) files outcome fs fs') (hNone : outcome.failures = []) :
    (s.moved o around').Orderly fs' ↔ s.notice.Current fs' s.year := by
  have hCarries : ∀ p ∈ files, s.engine.Carries (fs'.read p) :=
    h.carries (r := s.registry) hNone rfl hMarker (Engine.supports_of_eligible hTree hFiles)
  have hFiles' : ((s.engine.eligible s.root).run fs').1 = .ok files := by
    rw [← Program.refusing_none (s.engine.eligible s.root)] at hFiles ⊢
    rw [Engine.eligible_congr h.alike hTree hTree', hFiles]
  constructor
  · exact fun hOrderly => hOrderly.1
  · intro hCurrent
    refine ⟨hCurrent, ?_⟩
    exact Engine.exists_clean_check (e := (s.moved o around').engine) hTree' hFiles' hCarries

-- ---------------------------------------------------------------------------
-- Two runs
-- ---------------------------------------------------------------------------

/-- A repair of everything of this session exits with 0. No temporary file of the run is left in the
tree, and the session would begin as it did with the new year in the notice document. -/
structure Repairs (s : Session) (o : Options) (around : Surroundings) (fs : FileSystem) : Prop where
  tree   : fs.WellFormed
  report : o.reportPath? = none
  vacant : ∀ n dir, fs.lookup? (temporaryName n around.tag :: dir) = none
  begins : ((begin o around).run fs).1 = .ok s
  steady : ((begin o around).run ((s.notice.fix s.tag s.year).run fs).2).1 = .ok s
  exit   : ((runCommand ⟨o, .fix everything⟩ around).run fs).1.exitStatus = 0

theorem Repairs.noReport (h : s.Repairs o around fs) : s.reportPath? = none := by
  obtain ⟨-, c?, -, hOf⟩ := begin_eq_ok_iff.mp h.begins
  rw [(ofConfig_eq_ok hOf).2.1, h.report]

theorem Repairs.tag_eq (h : s.Repairs o around fs) : s.tag = around.tag := by
  obtain ⟨-, c?, -, hOf⟩ := begin_eq_ok_iff.mp h.begins
  rw [tag, (ofConfig_eq_ok hOf).1]

/-- What such a run has done: it has brought the notice document up to date, and then it has put
headers into files without failures. -/
theorem Repairs.exists_mends (h : s.Repairs o around fs) :
    s.notice.Current ((s.notice.fix s.tag s.year).run fs).2 s.year ∧
      ∃ files outcome,
        ((s.engine.eligible s.root).run ((s.notice.fix s.tag s.year).run fs).2).1 = .ok files ∧
        s.engine.Mends (fun _ => none) files outcome ((s.notice.fix s.tag s.year).run fs).2
          ((runCommand ⟨o, .fix everything⟩ around).run fs).2 ∧ outcome.failures = [] := by
  have hExit := h.exit
  rw [run_runCommand h.begins] at hExit ⊢
  change (s.fixEverything.run fs).1.exitStatus = 0 at hExit
  show _ ∧ ∃ files outcome,
    _ ∧ s.engine.Mends (fun _ => none) files outcome _ (s.fixEverything.run fs).2 ∧ _
  obtain ⟨fixed, outcome, hFixed, hRepair, hNone⟩ := (exit_fixEverything_iff h.noReport).mp hExit
  rw [fixEverything_snd h.noReport]
  have hVacant := h.vacant
  rw [← h.tag_eq] at hVacant
  obtain ⟨content, hInstalled, hCurrent⟩ := Notice.exists_installed_of_fix h.tree hVacant hFixed
  have hTree := Program.wellFormed_run (s.notice.fix s.tag s.year) h.tree
  generalize ((s.notice.fix s.tag s.year).run fs).2 = fs₁ at *
  refine ⟨hCurrent, ?_⟩
  have hSpare : ∀ p, s.engine.Lacks (fs₁.read p) →
      ∀ st, fs₁.linkStatus (p.temporarySibling s.engine.tag) ≠ .ok st := by
    rintro p ⟨content, hRead, -⟩
    exact Program.vacant_beside hTree hRead fun n dir => hInstalled.lookup?_eq_none (hVacant n dir)
  rcases Engine.run_fixAll_cases hTree hSpare [] [] with
    ⟨failure, hRun⟩ | ⟨files, outcome', fs₂, hFiles, hRun, hMends⟩
  · rw [hRun] at hRepair
    cases hRepair
  · rw [hRun] at hRepair ⊢
    obtain rfl : outcome' = outcome := Except.ok.inj hRepair
    exact ⟨files, outcome', hFiles, hMends, hNone⟩

/-- Where the configuration is spared, the check after the repair passes exactly where the notice
document is current. -/
theorem Repairs.exit_lint_iff_current {year : Int} (h : s.Repairs o around fs)
    (hYear : o.year? = some year)
    (hEnvironment : around'.configVariable? = around.configVariable?)
    (hMarker : s.registry.Carries s.settings.marker)
    (hSpares : s.SparesConfiguration (o.configSource around)
      ((s.notice.fix s.tag s.year).run fs).2) :
    ((runCommand ⟨o, .lint⟩ around').run
        ((runCommand ⟨o, .fix everything⟩ around).run fs).2).1.exitStatus = 0 ↔
      s.notice.Current ((runCommand ⟨o, .fix everything⟩ around).run fs).2 s.year := by
  obtain ⟨-, files, outcome, hFiles, hMends, hNone⟩ := h.exists_mends
  have hTree := Program.wellFormed_run (s.notice.fix s.tag s.year) h.tree
  have hTree' := Program.wellFormed_run (runCommand ⟨o, .fix everything⟩ around) h.tree
  rw [run_runCommand (begin_mends hYear hEnvironment h.steady hFiles hMends hSpares)]
  show ((s.moved o around').lint.run _).1.exitStatus = 0 ↔ _
  rw [exit_lint_iff (s := s.moved o around') h.noReport]
  exact orderly_mends_iff hTree hTree' hMarker hFiles hMends hNone

/-- **A check after a repair of everything.** Let the headers hold the marker, and let a repair of
everything exit with 0. If the headers that it puts into files spare the configuration and the
notice document, a check under the same options exits with 0. -/
theorem exit_lint_of_exit_fix {year : Int} (h : s.Repairs o around fs)
    (hYear : o.year? = some year)
    (hEnvironment : around'.configVariable? = around.configVariable?)
    (hMarker : s.registry.Carries s.settings.marker)
    (hConfig : s.SparesConfiguration (o.configSource around)
      ((s.notice.fix s.tag s.year).run fs).2)
    (hNotice : s.SparesNotice ((s.notice.fix s.tag s.year).run fs).2) :
    ((runCommand ⟨o, .lint⟩ around').run
      ((runCommand ⟨o, .fix everything⟩ around).run fs).2).1.exitStatus = 0 := by
  obtain ⟨hCurrent, files, outcome, hFiles, hMends, -⟩ := h.exists_mends
  refine (h.exit_lint_iff_current hYear hEnvironment hMarker hConfig).mpr ?_
  refine hCurrent.mends hMends (startYear_of_begin h.begins) fun p hMem hEnds header hHeader => ?_
  exact hNotice p header (wants_of_fixed hFiles hMends hMem hHeader) hEnds

/-- **A dated header outdates the notice document.** Let the notice document be a file that lacks
the marker and begins with no declaration of markup. If its header holds a range that ends with
another year than the wanted one, the check fails, although the repair before it has exited
with 0. -/
theorem exit_lint_ne_of_dated_header {year : Int} {p : Path} {header : String} {cs : List Char}
    {last : Nat} (h : s.Repairs o around fs) (hYear : o.year? = some year)
    (hEnvironment : around'.configVariable? = around.configVariable?)
    (hMarker : s.registry.Carries s.settings.marker)
    (hConfig : s.SparesConfiguration (o.configSource around)
      ((s.notice.fix s.tag s.year).run fs).2)
    (hWants : s.engine.Wants ((s.notice.fix s.tag s.year).run fs).2 s.root p header)
    (hEnds : ((s.notice.fix s.tag s.year).run fs).2.EndsAt s.notice.path p)
    (hRead : ((s.notice.fix s.tag s.year).run fs).2.read s.notice.path = .ok (encode cs))
    (hFront : Declaration.split? (encode cs) = none)
    (hLast : YearRange.lastYear? s.notice.startYear header.toList = some last)
    (hOther : (last : Int) ≠ s.year) :
    ((runCommand ⟨o, .lint⟩ around').run
      ((runCommand ⟨o, .fix everything⟩ around).run fs).2).1.exitStatus ≠ 0 := by
  obtain ⟨-, files, outcome, hFiles, hMends, hNone⟩ := h.exists_mends
  obtain ⟨files', hFiles', hFile, hLacks, hHeader⟩ := hWants
  obtain rfl := Except.ok.inj (hFiles'.symm.trans hFiles)
  have hMem : p ∈ outcome.fixed := hMends.mem_fixed hNone hFile hLacks hHeader
  rw [Ne, h.exit_lint_iff_current hYear hEnvironment hMarker hConfig]
  exact Notice.not_current_of_fixed hMends (startYear_of_begin h.begins) hMem hEnds hHeader hRead
    hFront hLast hOther

end Session

-- ---------------------------------------------------------------------------
-- A project with a source file for a notice document
-- ---------------------------------------------------------------------------

deriving instance DecidableEq for FileSystem

namespace Project

/-- A directory with a configuration, a license text and a notice document. -/
def tree (config license notice : String) : FileSystem :=
  ⟨[(["notice.py", "t"], .file (encode notice.toList) 0o644),
    ([".asflint.toml", "t"], .file (encode config.toList) 0o644),
    (["t"], .directory 0o755),
    (["header.txt", "t"], .file (encode license.toList) 0o644)], []⟩

/-- The configuration names the other two files. -/
def configText : String := "header-file = \"header.txt\"\n[notice]\nfile = \"notice.py\"\n"

/-- A license text. -/
def plainText : String := "http://www.apache.org/licenses/LICENSE-2.0"

/-- A license text with a range of years. -/
def datedText : String := "Copyright 2018-2020\nhttp://www.apache.org/licenses/LICENSE-2.0"

/-- The project before a run, with a notice document that is out of date. -/
def before (license : String) : FileSystem :=
  tree configText (license ++ "\n") "# Copyright 2018-2023\n"

/-- The project with the new year. -/
def updated (license : String) : FileSystem :=
  tree configText (license ++ "\n") "# Copyright 2018-2025\n"

/-- The files that take a header. -/
def files : List Path := [⟨"t/.asflint.toml"⟩, ⟨"t/notice.py"⟩]

/-- The options of both runs. -/
def options : Options := { root? := some ⟨"t"⟩, year? := some 2025 }

/-- Where the first run takes place. -/
def first : Surroundings := ⟨none, 2024, "", 1, 7, false, false⟩

/-- Where the second run takes place. -/
def second : Surroundings := ⟨none, 2026, "", 4, 8, true, true⟩

/-- The configuration in force. -/
def config (license : String) : Config :=
  ⟨⟨none, none, some ⟨"header.txt"⟩, some ⟨"notice.py"⟩, none, [], [], [], []⟩, some license⟩

/-- The session of the first run. -/
def session (license : String) : Session where
  settings := ⟨⟨"t"⟩, ⟨"t/notice.py"⟩, 2018, defaultMarker, none, .builtin⟩
  registry := ⟨license, [], []⟩
  year := 2025
  reportPath? := none
  presentation := options.presentation first
  surroundings := first

section

variable (license configText' license' notice : String)

theorem wellFormed_tree : (tree configText' license' notice).WellFormed := by
  have hEntry : ∀ {n : String} {dir : Location} {entry : Entry},
      (n :: dir, entry) ∈ (tree configText' license' notice).entries →
        n = "t" ∧ dir = [] ∨
          (n = "notice.py" ∨ n = ".asflint.toml" ∨ n = "header.txt") ∧ dir = ["t"] := by
    intro n dir entry hMem
    simp only [tree, List.mem_cons, Prod.mk.injEq, List.cons.injEq, List.not_mem_nil,
      or_false] at hMem
    tauto
  refine ⟨by simp [tree], fun hMem => ?_, fun hMem => ?_⟩
  · rcases hEntry hMem with ⟨rfl, -⟩ | ⟨rfl | rfl | rfl, -⟩ <;>
      exact ⟨by decide, by decide, by decide, by decide⟩
  · rcases hEntry hMem with ⟨-, rfl⟩ | ⟨-, rfl⟩
    · rfl
    · rfl

theorem list_tree : (tree configText' license' notice).list ⟨"t"⟩ =
    .ok [(".asflint.toml", .file), ("header.txt", .file), ("notice.py", .file)] := by
  have hFind : (tree configText' license' notice).find true ⟨"t"⟩ =
      .ok (["t"], .directory 0o755) := rfl
  have hChildren : (tree configText' license' notice).children ["t"] =
      [(".asflint.toml", .file (encode configText'.toList) 0o644),
        ("header.txt", .file (encode license'.toList) 0o644),
        ("notice.py", .file (encode notice.toList) 0o644)] := by
    refine eq_of_increasing
      (FileSystem.increasing_children (wellFormed_tree configText' license' notice) ["t"]) ?_ ?_
    · have hNames : [".asflint.toml", "header.txt", "notice.py"].Pairwise (· < ·) := by
        decide
      exact List.pairwise_map.mp hNames
    · rintro ⟨n, entry⟩
      rw [FileSystem.mem_children]
      simp only [tree, List.mem_cons, Prod.mk.injEq, List.cons.injEq, List.not_mem_nil, or_false]
      tauto
  rw [FileSystem.list, hFind]
  simp [hChildren, bind, Except.bind, Entry.status]

theorem eligible_tree :
    (((session license).engine.eligible ⟨"t"⟩).run (tree configText' license' notice)).1 =
      .ok files := by
  have hStatus : (tree configText' license' notice).linkStatus ⟨"t"⟩ =
      .ok ⟨.directory, 0o755⟩ := rfl
  have hEnters : ((session license).engine.selection.descends ⟨"t"⟩).run
      (tree configText' license' notice) = (true, tree configText' license' notice) := rfl
  have hConfig : (((session license).engine.selection.includes ⟨"t/.asflint.toml"⟩).run
      (tree configText' license' notice)).1 = true := rfl
  have hLicense : (((session license).engine.selection.includes ⟨"t/header.txt"⟩).run
      (tree configText' license' notice)).1 = false := rfl
  have hNotice : (((session license).engine.selection.includes ⟨"t/notice.py"⟩).run
      (tree configText' license' notice)).1 = true := rfl
  have hStay : ∀ p, ((Walk.report (session license).engine.selection p).run
      (tree configText' license' notice)).2 = tree configText' license' notice :=
    fun p => Program.run_snd_of_readOnly (Walk.report_surveys _ _).readOnly _
  have hJoin : (⟨"t"⟩ : Path).join ⟨".asflint.toml"⟩ = ⟨"t/.asflint.toml"⟩ ∧
      (⟨"t"⟩ : Path).join ⟨"header.txt"⟩ = ⟨"t/header.txt"⟩ ∧
      (⟨"t"⟩ : Path).join ⟨"notice.py"⟩ = ⟨"t/notice.py"⟩ := by decide
  have hInside : ((Walk.inside (session license).engine.selection pathLimit ⟨"t"⟩).run
      (tree configText' license' notice)).1 = .ok files := by
    rw [show pathLimit = 4095 + 1 from rfl, Walk.inside]
    simp [list_tree, Walk.visitAll, hJoin, Walk.report_run, hConfig, hLicense, hNotice, hStay,
      files]
  simp [Engine.eligible, walk, Walk.fromRoot, hStatus, hEnters, hInside]

theorem ofConfig_config :
    Session.ofConfig options first (some (config license)) = .ok (session license) := by
  have hJoin : (⟨"t"⟩ : Path).join ⟨"notice.py"⟩ = ⟨"t/notice.py"⟩ := by decide
  simp [Session.ofConfig, Settings.ofConfig, config, Exclusions.parse_nil, session,
    Registry.ofConfig, Registry.builtin, Registry.withLicenseText, options, Options.root,
    Options.overrideSettings, Options.presentation, first, firstOf, Config.marker,
    defaultStartYear, hJoin]

end

variable {license : String}

theorem parse_configText :
    Config.parse configText ⟨"t/.asflint.toml"⟩ =
      .ok { config license with headerText? := none } := by
  have hParse : Config.parse configText ⟨"t/.asflint.toml"⟩ =
      .ok { config "" with headerText? := none } := by decide +kernel
  exact hParse

/-- The configuration in force follows from the texts of its two files. -/
theorem load_tree {text : String}
    (hParse : Config.parse text ⟨"t/.asflint.toml"⟩ =
      .ok { config license with headerText? := none })
    (hText : Config.withHeaderText { config license with headerText? := none } (license ++ "\n") =
      .ok (config license)) (notice : String) :
    ((options.configSource first).load.run (tree text (license ++ "\n") notice)).1 =
      .ok (some (config license)) := by
  refine ConfigSource.load_eq_ok_iff.mpr
    (Or.inr ⟨⟨"t/.asflint.toml"⟩, config license, rfl, ?_, rfl⟩)
  refine Config.load_eq_ok_iff.mpr ⟨text, _, rfl, hParse, ?_⟩
  exact Config.loadHeader_eq_ok_iff.mpr (Or.inr ⟨⟨"header.txt"⟩, _, rfl, rfl, hText⟩)

theorem verdict_updated : ∀ p ∈ files,
    (session license).engine.verdict p ((updated license).read p) = .ok false := by
  have hConfig : carries (encode configText.toList) defaultMarker = false := by decide
  have hNotice : carries (encode "# Copyright 2018-2025\n".toList) defaultMarker = false := by
    decide +kernel
  intro p hMem
  rcases List.mem_cons.mp hMem with rfl | hMem
  · exact congrArg Except.ok hConfig
  · obtain rfl := List.mem_singleton.mp hMem
    exact congrArg Except.ok hNotice

/-- The license text is accepted, and every step of a repair of everything succeeds. -/
structure Works (license : String) : Prop where
  text    : Config.withHeaderText { config license with headerText? := none } (license ++ "\n") =
    .ok (config license)
  notice  : ((session license).notice.fix (session license).tag 2025).run (before license) =
    (.ok ⟨2023, 2025⟩, updated license)
  repairs : ((Pool.run [] 1 files fun p => some <$> (session license).engine.repair p).run
    (updated license)).1 = .results (files.map fun p => (p, .ok .added))

theorem works_plain : Works plainText where
  text := by decide
  notice := by decide +kernel
  repairs := by decide +kernel

theorem works_dated : Works datedText where
  text := by decide +kernel
  notice := by decide +kernel
  repairs := by decide +kernel

/-- The session begins with either year in the notice document. -/
theorem Works.begin (h : Works license) (notice : String) :
    ((Session.begin options first).run (tree configText (license ++ "\n") notice)).1 =
      .ok (session license) :=
  Session.begin_eq_ok_iff.mpr
    ⟨rfl, _, load_tree parse_configText h.text notice, ofConfig_config license⟩

theorem Works.fixAll (h : Works license) :
    ∃ o, (((session license).engine.fixAll ⟨"t"⟩).run (updated license)).1 = .ok o ∧
      o.failures = [] := by
  have hOrdered : files.Pairwise fun p q => p.key < q.key := by decide +kernel
  obtain ⟨c, hCheck, hReports⟩ :=
    Engine.exists_run_check (wellFormed_tree _ _ _) (eligible_tree license _ _ _) []
  have hMissing : c.missing = files :=
    eq_of_increasing hReports.increasing hOrdered fun p =>
      (hReports.missing p).trans ⟨fun h => h.1, fun hMem => ⟨hMem, verdict_updated p hMem⟩⟩
  have hFailures : c.failures = [] := by
    refine List.eq_nil_iff_forall_not_mem.mpr fun x hMem => ?_
    obtain ⟨p, hFile, hFails⟩ := (hReports.failures x).mp hMem
    cases (verdict_updated p hFile).symm.trans hFails
  refine ⟨Engine.collectFixes c.failures (files.map fun p => (p, .ok .added)), ?_, ?_⟩
  · have hRepairs := h.repairs
    have hJobs : (session license).engine.jobs = 1 := rfl
    rw [Engine.fixAll, Program.run_bind, updated, hCheck]
    simp only [Program.run_bind, hJobs, hMissing]
    rw [← updated, hRepairs]
    rfl
  · refine List.eq_nil_iff_forall_not_mem.mpr fun x hMem => ?_
    rw [Engine.mem_failures_iff, hFailures] at hMem
    simp [files] at hMem

/-- No temporary file stands in the project: none of its names ends as those do. -/
theorem vacant_before (n : String) (dir : Location) :
    (before license).lookup? (temporaryName n first.tag :: dir) = none := by
  rw [Option.eq_none_iff_forall_ne_some]
  intro entry hEntry
  have hMem := ((wellFormed_tree _ _ _).lookup?_eq_some_iff (List.cons_ne_nil _ _)).mp hEntry
  have hLast := temporaryName_getLast? n first.tag
  simp only [tree, List.mem_cons, Prod.mk.injEq, List.cons.injEq, List.not_mem_nil,
    or_false] at hMem
  rcases hMem with ⟨⟨hName, -⟩, -⟩ | ⟨⟨hName, -⟩, -⟩ | ⟨⟨hName, -⟩, -⟩ | ⟨⟨hName, -⟩, -⟩ <;>
  · rw [hName] at hLast
    exact absurd hLast (by decide)

/-- The repair of everything exits with 0. -/
theorem Works.repairs_everything (h : Works license) :
    (session license).Repairs options first (before license) := by
  have hBegin : ((Session.begin options first).run (before license)).1 = .ok (session license) :=
    h.begin _
  have hNotice : ((session license).notice.fix (session license).tag (session license).year).run
      (before license) = (.ok ⟨2023, 2025⟩, updated license) := h.notice
  obtain ⟨o, hRun, hNone⟩ := h.fixAll
  refine ⟨wellFormed_tree _ _ _, rfl, vacant_before, hBegin, ?_, ?_⟩
  · rw [hNotice]
    exact h.begin _
  · rw [Session.run_runCommand hBegin]
    refine (Session.exit_fixEverything_iff rfl).mpr ⟨⟨2023, 2025⟩, o, ?_, ?_, hNone⟩
    · rw [hNotice]
    · rw [hNotice]
      exact hRun

theorem carries_session (hLine : StandsInLine defaultMarker.toList license.toList) :
    (session license).registry.Carries (session license).settings.marker :=
  Registry.carries_of_standsInLine hLine

/-- Both files take the license text as line comments. -/
theorem header_of_wants {p : Path} {header : String}
    (h : (session license).engine.Wants (updated license) ⟨"t"⟩ p header) :
    header = CommentStyle.hash.render license := by
  obtain ⟨found, hFound, hMem, -, hHeader⟩ := h
  rw [updated, eligible_tree] at hFound
  obtain rfl := Except.ok.inj hFound
  rcases List.mem_cons.mp hMem with rfl | hMem
  · exact (Option.some.inj hHeader).symm
  · obtain rfl := List.mem_singleton.mp hMem
    exact (Option.some.inj hHeader).symm

/-- Line comments may stand in front of the configuration. -/
theorem spares_configuration
    (hComment : Toml.isComment (CommentStyle.hash.render license).toList = true) :
    (session license).SparesConfiguration (options.configSource first) (updated license) := by
  have hMark : ¬ Declaration.byteOrderMark <+: encode configText.toList := by decide
  intro path hFile p header hWants _ content hRead
  obtain rfl : ⟨"t/.asflint.toml"⟩ = path := Option.some.inj hFile
  obtain rfl : encode configText.toList = content := Except.ok.inj hRead
  rw [header_of_wants hWants]
  exact ⟨hComment, hMark⟩

/-- With a plain license text the check after the repair is clean, although the configuration and
the notice document have received headers. -/
theorem lint_passes_behind_plain_header :
    ((runCommand ⟨options, .fix Session.everything⟩ first).run
        (before plainText)).1.exitStatus = 0 ∧
      ((runCommand ⟨options, .lint⟩ second).run
        ((runCommand ⟨options, .fix Session.everything⟩ first).run
          (before plainText)).2).1.exitStatus = 0 := by
  have hRepairs := works_plain.repairs_everything
  have hNotice : ((session plainText).notice.fix (session plainText).tag
      (session plainText).year).run (before plainText) = (.ok ⟨2023, 2025⟩, updated plainText) :=
    works_plain.notice
  have hMarker : StandsInLine defaultMarker.toList plainText.toList :=
    ⟨plainText.toList, by decide, List.infix_refl _⟩
  have hRange : YearRange.lastYear? 2018 (CommentStyle.hash.render plainText).toList = none := by
    decide
  refine ⟨hRepairs.exit, Session.exit_lint_of_exit_fix hRepairs rfl rfl (carries_session hMarker)
    ?_ ?_⟩
  · rw [hNotice]
    exact spares_configuration (by decide)
  · rw [hNotice]
    intro p header hWants _ last hLast
    rw [header_of_wants hWants] at hLast
    cases hRange.symm.trans hLast

/-- With a range of years in the license text the check after the repair fails: the header stands
before the range of the notice document. -/
theorem lint_fails_behind_dated_header :
    ((Session.begin options first).run (before datedText)).1 = .ok (session datedText) ∧
      (session datedText).registry.Carries (session datedText).settings.marker ∧
      ((runCommand ⟨options, .fix Session.everything⟩ first).run
        (before datedText)).1.exitStatus = 0 ∧
      ((runCommand ⟨options, .lint⟩ first).run
        ((runCommand ⟨options, .fix Session.everything⟩ first).run
          (before datedText)).2).1.exitStatus ≠ 0 := by
  have hRepairs := works_dated.repairs_everything
  have hNotice : ((session datedText).notice.fix (session datedText).tag
      (session datedText).year).run (before datedText) = (.ok ⟨2023, 2025⟩, updated datedText) :=
    works_dated.notice
  have hMarker : StandsInLine defaultMarker.toList datedText.toList :=
    ⟨defaultMarker.toList, by decide, List.infix_refl _⟩
  have hMem : (⟨"t/notice.py"⟩ : Path) ∈ files := List.mem_cons_of_mem _ (List.mem_cons_self ..)
  have hWants : (session datedText).engine.Wants (updated datedText) ⟨"t"⟩ ⟨"t/notice.py"⟩
      (CommentStyle.hash.render datedText) :=
    ⟨files, eligible_tree _ _ _ _, hMem, Engine.verdict_eq_false_iff.mp (verdict_updated _ hMem),
      rfl⟩
  have hFront : Declaration.split? (encode "# Copyright 2018-2025\n".toList) = none := by
    decide +kernel
  have hEnds : (updated datedText).EndsAt ⟨"t/notice.py"⟩ ⟨"t/notice.py"⟩ :=
    ⟨["notice.py", "t"], rfl, rfl⟩
  have hRead : (updated datedText).read ⟨"t/notice.py"⟩ =
      .ok (encode "# Copyright 2018-2025\n".toList) := rfl
  have hLast : YearRange.lastYear? 2018 (CommentStyle.hash.render datedText).toList =
      some 2020 := by decide
  have hSpares := spares_configuration (by decide :
    Toml.isComment (CommentStyle.hash.render datedText).toList = true)
  have hUpdated : updated datedText = (((session datedText).notice.fix (session datedText).tag
      (session datedText).year).run (before datedText)).2 := (congrArg Prod.snd hNotice).symm
  rw [hUpdated] at hWants hEnds hRead hSpares
  exact ⟨hRepairs.begins, carries_session hMarker, hRepairs.exit,
    Session.exit_lint_ne_of_dated_header hRepairs rfl rfl (carries_session hMarker) hSpares hWants
      hEnds hRead hFront hLast (by decide)⟩

end Project

end LicenseAudit
