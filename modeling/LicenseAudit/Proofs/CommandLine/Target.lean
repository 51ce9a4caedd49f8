import LicenseAudit.Proofs.Audit.Repair
import LicenseAudit.Proofs.CommandLine.Account
import LicenseAudit.Proofs.CommandLine.Session
import LicenseAudit.Proofs.Notice.Failure

/-!
# The target of a repair

A repair with a target other than everything is about one file. It is the notice document if the
target, as it is given or as it is found under the root, means that, and else the file that the
target is resolved to. Calls may fail, except that links can be followed: a document whose canonical
path is denied could not be told from another file.

* `Session.resolved` — the file that a target is resolved to;
* `Session.MeansNotice` — the paths that mean the notice document;
* `Session.Edits` — what a repair of one target comes to.

## Results

* `run_isNotice_iff` — what the test for the notice document decides.
* `fix_edits_target` — a repair of one target edits the right file, and that file only.
-/

namespace LicenseAudit

open FileSystem Program Text

-- ---------------------------------------------------------------------------
-- Repairs of one document and of one file
-- ---------------------------------------------------------------------------

/-- The second content is the first one with another year at the end of its range. -/
def Notice.Renews (n : Notice) (year : Int) (before after : Bytes) : Prop :=
  ∃ cs r, before = encode cs ∧ YearRange.find? n.startYear cs = some r ∧
    after = encode (r.setEnd year)

variable {fs : FileSystem} {faults : Call → Option Fault} {tag : Nat}

/-- A repair of the notice document puts another year at the end of its range, or is withdrawn. -/
theorem Notice.failing_fix_cases (n : Notice) (hTree : fs.WellFormed)
    (hVacant : ∀ st, fs.linkStatus (n.path.temporarySibling tag) ≠ .ok st)
    (faults : Call → Option Fault) (year : Int) :
    (∃ before after, fs.read n.path = .ok before ∧ n.Renews year before after ∧
      fs.Installed n.path after (((n.fix tag year).failing faults).run fs).2) ∨
    Withdrawn faults tag n.path fs (((n.fix tag year).failing faults).run fs).2 := by
  rw [run_failing_fix]
  split
  · cases hFound : n.found faults fs with
    | error e => exact Or.inr (.refl ..)
    | ok r =>
      obtain ⟨cs, hRead, hFind⟩ := exists_text_of_found hFound
      simp only
      obtain ⟨s, hRun, hInstalled⟩ | ⟨cause, s, hRun, hWithdrawn⟩ :=
        failing_replace_cases hTree hRead hVacant faults (encode (r.setEnd year))
      · rw [hRun]
        exact Or.inl ⟨_, _, hRead, ⟨cs, r, rfl, hFind, rfl⟩, hInstalled⟩
      · rw [hRun]
        exact Or.inr hWithdrawn
  · exact Or.inr (.refl ..)

/-- A repair of one file, which may be a link, installs a content there or is withdrawn. -/
theorem Engine.failing_fixFile_cases (e : Engine) {p : Path} (hTree : fs.WellFormed)
    (hVacant : ∀ st, fs.linkStatus (p.temporarySibling e.tag) ≠ .ok st)
    (faults : Call → Option Fault) :
    (∃ old content, fs.read p = .ok old ∧
      fs.Installed p content (((e.fixFile p).failing faults).run fs).2) ∨
    Withdrawn faults e.tag p fs (((e.fixFile p).failing faults).run fs).2 := by
  by_cases hNone : e.headers.supports p = false ∨ e.headers.headerFor? p = none
  · rw [fixFile_eq_pure hNone]
    exact Or.inr (.refl ..)
  · obtain ⟨header, hTakes⟩ := exists_takes hNone
    rw [run_fixFile hTakes]
    cases hShown : shown faults fs p with
    | error cause => exact Or.inr (.refl ..)
    | ok old =>
      simp only
      split
      · exact Or.inr (.refl ..)
      · have hRead := read_of_shown hShown
        obtain ⟨s, hRun, hInstalled⟩ | ⟨cause, s, hRun, hWithdrawn⟩ :=
          failing_replace_cases hTree hRead hVacant faults
            (insertHeader old (encode header.toList))
        · rw [hRun]
          exact Or.inl ⟨old, _, hRead, hInstalled⟩
        · rw [hRun]
          exact Or.inr hWithdrawn

namespace Session

variable {s : Session} {p target : Path}

-- ---------------------------------------------------------------------------
-- What a target means
-- ---------------------------------------------------------------------------

theorem resolveTarget_readOnly (s : Session) (target : Path) :
    (s.resolveTarget target).ReadOnly := by
  have hExists : ∀ q, (Program.pathExists q).ReadOnly := fun q =>
    Program.Only.bind (Program.only_ask rfl) fun _ => Program.only_pure _
  rw [resolveTarget]
  split
  · exact Program.only_pure _
  · refine (hExists _).bind fun here => ?_
    cases here with
    | true => exact Program.only_pure _
    | false =>
      refine (hExists _).bind fun there => ?_
      cases there <;> exact Program.only_pure _

/-- The test for the notice document follows the links of two paths. -/
theorem isNotice_only (s : Session) (p : Path) :
    (s.isNotice p).Only fun c => c = .canonical p ∨ c = .canonical s.notice.path := by
  rw [isNotice]
  split
  · exact Program.only_pure _
  · refine Program.Only.bind (Program.only_ask (Or.inl rfl)) fun first => ?_
    refine Program.Only.bind (Program.only_ask (Or.inr rfl)) fun second => ?_
    cases first <;> cases second <;> exact Program.only_pure _

theorem run_isNotice_snd (s : Session) (p : Path) (fs : FileSystem) :
    ((s.isNotice p).run fs).2 = fs := by
  refine Program.run_snd_of_readOnly ((s.isNotice_only p).mono fun c hCall => ?_) fs
  rcases hCall with rfl | rfl <;> rfl

/-- The file that a target is resolved to, where calls may fail. -/
def resolved (s : Session) (faults : Call → Option Fault) (fs : FileSystem) (target : Path) :
    Path :=
  (((s.resolveTarget target).failing faults).run fs).1

/-- The disk lets the links of a target be followed, as it is given and as it is resolved, and those
of the notice document. -/
def Followed (s : Session) (faults : Call → Option Fault) (fs : FileSystem) (target : Path) :
    Prop :=
  ∀ p ∈ [target, s.resolved faults fs target, s.notice.path], faults (.canonical p) = none

/-- The path means the notice document: it is the bare name of it, it leads to the same place, or it
has no canonical path and is the same path, component by component. -/
inductive MeansNotice (s : Session) (fs : FileSystem) (p : Path) : Prop where
  | bare {n : String} (hBare : p.components = [.name n])
      (hName : s.notice.path.fileName? = some n)
  | leads {c : Path} (hPath : fs.canonical p = .ok c)
      (hNotice : fs.canonical s.notice.path = .ok c)
  | spelled {cause : IoError} (hNowhere : fs.canonical p = .error cause)
      (hSame : p.components = s.notice.path.components)

/-- A document that can be read has a name and a canonical path. -/
theorem exists_name_of_read {q : Path} {document : Bytes} (hTree : fs.WellFormed)
    (hRead : fs.read q = .ok document) :
    (∃ n, q.fileName? = some n) ∧ ∃ c, fs.canonical q = .ok c := by
  obtain ⟨dir, n, hSeat, -, -⟩ := exists_seat_of_read hTree hRead
  obtain ⟨l, mode, hFind⟩ := find_of_read hRead
  obtain ⟨hLocate, hFile⟩ := find_eq_ok_iff.mp hFind
  exact ⟨⟨n, hSeat.fileName?_eq⟩, _, canonical_of_locate hLocate hFile⟩

/-- A path of one component has a file name if that is its component. -/
theorem bare_iff {n : String} :
    (p.components.length = 1 && p.fileName? == some n) = true ↔ p.components = [.name n] := by
  rw [Bool.and_eq_true, decide_eq_true_iff, beq_iff_eq, Path.fileName?]
  constructor
  · rintro ⟨hOne, hName⟩
    obtain ⟨c, hComponents⟩ := List.length_eq_one_iff.mp hOne
    rw [hComponents] at hName ⊢
    cases c with
    | name m => rw [Option.some.inj hName]
    | root | here | up => cases hName
  · intro hComponents
    rw [hComponents]
    exact ⟨rfl, rfl⟩

/-- **What the test for the notice document decides**, where there is one. -/
theorem run_isNotice_iff {document : Bytes} (hTree : fs.WellFormed)
    (hNotice : fs.read s.notice.path = .ok document) :
    ((s.isNotice p).run fs).1 = true ↔ s.MeansNotice fs p := by
  obtain ⟨⟨n, hName⟩, c, hCanonical⟩ := exists_name_of_read hTree hNotice
  rw [isNotice, hName]
  by_cases hBare : p.components = [.name n]
  · rw [if_pos (bare_iff.mpr hBare)]
    exact iff_of_true rfl (.bare hBare hName)
  · rw [if_neg (mt bare_iff.mp hBare), sameFile]
    have hAsk : ∀ q, (Program.canonical q).run fs = (fs.canonical q, fs) := fun _ => rfl
    simp only [Program.run_bind, hAsk, hCanonical]
    cases hPath : fs.canonical p with
    | ok c' =>
      show c'.same c = true ↔ _
      constructor
      · intro hSame
        exact .leads hPath (canonical_eq_of_same hTree hPath hCanonical hSame ▸ hCanonical)
      · intro hMeans
        cases hMeans with
        | bare hBare' hName' =>
          rw [Option.some.inj (hName.symm.trans hName')] at hBare
          exact absurd hBare' hBare
        | leads hPath' hNotice' =>
          have hSame : c' = c := (Except.ok.inj (hPath.symm.trans hPath')).trans
            (Except.ok.inj (hCanonical.symm.trans hNotice')).symm
          rw [hSame]
          exact beq_self_eq_true _
        | spelled hNowhere => cases hPath.symm.trans hNowhere
    | error cause =>
      show p.same s.notice.path = true ↔ _
      constructor
      · exact fun hSame => .spelled hPath (eq_of_beq hSame)
      · intro hMeans
        cases hMeans with
        | bare hBare' hName' =>
          rw [Option.some.inj (hName.symm.trans hName')] at hBare
          exact absurd hBare' hBare
        | leads hPath' => cases hPath.symm.trans hPath'
        | spelled _ hSame =>
          rw [Path.same, hSame]
          exact beq_self_eq_true _

-- ---------------------------------------------------------------------------
-- What a repair of one target comes to
-- ---------------------------------------------------------------------------

/-- The target or the file that it is resolved to means the notice document. -/
def TargetsNotice (s : Session) (faults : Call → Option Fault) (fs : FileSystem) (target : Path) :
    Prop :=
  s.MeansNotice fs target ∨ s.MeansNotice fs (s.resolved faults fs target)

/-- What a repair of one target comes to. If the target means the notice document, the document is
repaired and nothing else may change. If not, the file that the target is resolved to is repaired,
nothing else may change, and the document is the same. Either way the document can be read, as it
was or with another year, but never with a header. -/
structure Edits (s : Session) (faults : Call → Option Fault) (fs : FileSystem) (target : Path)
    (fs' : FileSystem) : Prop where
  notice   : s.TargetsNotice faults fs target →
    fs' = (((s.notice.fix s.tag s.year).failing faults).run fs).2 ∧
      SameBeside faults s.tag s.notice.path fs fs'
  file     : ¬ s.TargetsNotice faults fs target →
    fs' = (((s.engine.fixFile (s.resolved faults fs target)).failing faults).run fs).2 ∧
      SameBeside faults s.tag (s.resolved faults fs target) fs fs' ∧
        Untouched s.notice.path fs fs'
  document : ∀ before, fs.read s.notice.path = .ok before → ∃ after,
    fs'.read s.notice.path = .ok after ∧ (after = before ∨ s.notice.Renews s.year before after)

variable {document : Bytes}

/-- The calls of a repair of one target change what the repair of the notice document changes, or
what the repair of the file does. -/
theorem run_targetAccount (hTree : fs.WellFormed) (hNotice : fs.read s.notice.path = .ok document)
    (hFollowed : s.Followed faults fs target) :
    (s.TargetsNotice faults fs target ∧
      (((s.targetAccount target).failing faults).run fs).2 =
        (((s.notice.fix s.tag s.year).failing faults).run fs).2) ∨
    (¬ s.TargetsNotice faults fs target ∧
      (((s.targetAccount target).failing faults).run fs).2 =
        (((s.engine.fixFile (s.resolved faults fs target)).failing faults).run fs).2) := by
  have hResolve : ((s.resolveTarget target).failing faults).run fs =
      (s.resolved faults fs target, fs) :=
    Prod.ext rfl (Program.run_failing_snd_of_readOnly (s.resolveTarget_readOnly target) faults fs)
  -- the two tests only follow links, and that does not fail
  have hTest : ∀ p ∈ [target, s.resolved faults fs target, s.notice.path],
      (s.isNotice p).failing faults = s.isNotice p := by
    intro p hMem
    refine Program.failing_of_only ((s.isNotice_only p).mono fun c hCall => ?_)
    rcases hCall with rfl | rfl
    · exact hFollowed p hMem
    · exact hFollowed s.notice.path (by simp)
  have hMeans : s.TargetsNotice faults fs target ↔ (((s.isNotice target).run fs).1 ||
      ((s.isNotice (s.resolved faults fs target)).run fs).1) = true := by
    rw [Bool.or_eq_true, run_isNotice_iff hTree hNotice, run_isNotice_iff hTree hNotice]
    exact Iff.rfl
  rw [hMeans, targetAccount]
  simp only [Program.failing_bind, Program.run_bind, hResolve, hTest target (by simp),
    hTest (s.resolved faults fs target) (by simp), run_isNotice_snd]
  split_ifs with hNamed
  · refine Or.inl ⟨hNamed, ?_⟩
    simp only [Program.failing_bind, Program.run_bind, Program.failing_pure, Program.run_pure]
  · refine Or.inr ⟨hNamed, ?_⟩
    simp only [Program.failing_bind, Program.run_bind, Program.failing_pure, Program.run_pure]

/-- Without a report to write nothing is changed any more when the account is closed. -/
theorem close_readOnly (hReport : s.reportPath? = none) (acc : Account) :
    (s.close Program.elapsed acc).ReadOnly := by
  have hWrite : ∀ r, s.writeReport r = pure (.ok ()) := by
    intro r
    rw [writeReport, hReport]
  rw [close]
  cases acc.failure? with
  | some e => exact Program.only_pure _
  | none =>
    refine Program.Only.bind (Program.only_ask rfl) fun time => ?_
    simp only [hWrite, pure_bind]
    exact Program.only_pure _

/-- A run without report changes what its calls change. -/
theorem run_fix_snd {o : Options} {around : Surroundings} {target : String}
    (hBegin : (((begin o around).failing faults).run fs).1 = .ok s)
    (hReport : o.reportPath? = none) (hTarget : target ≠ everything) :
    (((runCommand ⟨o, .fix target⟩ around).failing faults).run fs).2 =
      (((s.targetAccount ⟨target⟩).failing faults).run fs).2 := by
  have hNone : s.reportPath? = none := (reportPath?_of_begin hBegin).trans hReport
  rw [run_failing_runCommand hBegin, carryOut_eq, Program.failing_bind, Program.run_bind,
    Program.run_failing_snd_of_readOnly (close_readOnly hNone _), account, if_neg hTarget]

/-- A repair of the notice document. -/
theorem edits_of_targetsNotice {fs' : FileSystem} (hTree : fs.WellFormed)
    (hNotice : fs.read s.notice.path = .ok document)
    (hVacant : ∀ st, fs.linkStatus (s.notice.path.temporarySibling s.tag) ≠ .ok st)
    (hTargets : s.TargetsNotice faults fs target)
    (hRun : fs' = (((s.notice.fix s.tag s.year).failing faults).run fs).2) :
    s.Edits faults fs target fs' := by
  have hStart : fs'.workingDirectory = fs.workingDirectory := by
    rw [hRun]
    exact Program.workingDirectory_run _ fs
  have hCases := s.notice.failing_fix_cases hTree hVacant faults s.year
  rw [← hRun] at hCases
  rcases hCases with ⟨before, after, hRead, hRenews, hInstalled⟩ | hWithdrawn
  · refine ⟨fun _ => ⟨hRun, sameBeside_of_installed hInstalled hStart⟩,
      fun hNot => absurd hTargets hNot, fun before' hBefore => ⟨after, hInstalled.read, ?_⟩⟩
    obtain rfl : before' = before := Except.ok.inj (hBefore.symm.trans hRead)
    exact Or.inr hRenews
  · refine ⟨fun _ => ⟨hRun, hWithdrawn.sameBeside⟩, fun hNot => absurd hTargets hNot, ?_⟩
    have hSame := (hWithdrawn.untouched hTree hNotice).content
    exact fun before hBefore => ⟨before, hSame.trans hBefore, Or.inl rfl⟩

/-- A repair of another file. -/
theorem edits_of_not_targetsNotice {fs' : FileSystem} (hTree : fs.WellFormed)
    (hNotice : fs.read s.notice.path = .ok document)
    (hVacant : ∀ st,
      fs.linkStatus ((s.resolved faults fs target).temporarySibling s.tag) ≠ .ok st)
    (hTargets : ¬ s.TargetsNotice faults fs target)
    (hRun : fs' = (((s.engine.fixFile (s.resolved faults fs target)).failing faults).run fs).2) :
    s.Edits faults fs target fs' := by
  have hStart : fs'.workingDirectory = fs.workingDirectory := by
    rw [hRun]
    exact Program.workingDirectory_run _ fs
  obtain ⟨hBeside, hUntouched⟩ :
      SameBeside faults s.tag (s.resolved faults fs target) fs fs' ∧
        Untouched s.notice.path fs fs' := by
    have hCases := s.engine.failing_fixFile_cases hTree hVacant faults
    rw [← hRun] at hCases
    rcases hCases with ⟨old, content, hRead, hInstalled⟩ | hWithdrawn
    · refine ⟨sameBeside_of_installed hInstalled hStart,
        hInstalled.untouched hStart hTree hRead hNotice ?_⟩
      -- with the canonical path of the document the file would mean the document
      obtain ⟨-, c, hCanonical⟩ := exists_name_of_read hTree hNotice
      intro hSame
      exact hTargets (Or.inr (.leads (hSame.trans hCanonical) hCanonical))
    · exact ⟨hWithdrawn.sameBeside, hWithdrawn.untouched hTree hNotice⟩
  refine ⟨fun hMeans => absurd hMeans hTargets, fun _ => ⟨hRun, hBeside, hUntouched⟩, ?_⟩
  intro before hBefore
  exact ⟨before, hUntouched.content.trans hBefore, Or.inl rfl⟩

/-- **A repair of one target edits the right file, and that file only**, whichever other calls fail.
There is a notice document, no temporary file stands beside it or beside the file that the target is
resolved to, and no report is written. -/
theorem fix_edits_target {o : Options} {around : Surroundings} {target : String}
    (hTree : fs.WellFormed) (hBegin : (((begin o around).failing faults).run fs).1 = .ok s)
    (hReport : o.reportPath? = none) (hTarget : target ≠ everything)
    (hNotice : fs.read s.notice.path = .ok document)
    (hVacant : ∀ st, fs.linkStatus (s.notice.path.temporarySibling s.tag) ≠ .ok st)
    (hVacantFile :
      ∀ st, fs.linkStatus ((s.resolved faults fs ⟨target⟩).temporarySibling s.tag) ≠ .ok st)
    (hFollowed : s.Followed faults fs ⟨target⟩) :
    s.Edits faults fs ⟨target⟩
      (((runCommand ⟨o, .fix target⟩ around).failing faults).run fs).2 := by
  have hRun := run_fix_snd hBegin hReport hTarget
  rcases run_targetAccount hTree hNotice hFollowed with ⟨hTargets, hCalls⟩ | ⟨hTargets, hCalls⟩
  · exact edits_of_targetsNotice hTree hNotice hVacant hTargets (hRun.trans hCalls)
  · exact edits_of_not_targetsNotice hTree hNotice hVacantFile hTargets (hRun.trans hCalls)

-- ---------------------------------------------------------------------------
-- Two other names of a notice document
-- ---------------------------------------------------------------------------

/-- A directory with a notice document and a link to it. -/
def linkedTree : FileSystem :=
  ⟨[(["NOTICE", "t"], .file (encode "Copyright 2018-2023\n".toList) 0o644),
    (["same", "t"], .link ⟨"NOTICE"⟩),
    (["t"], .directory 0o755)], []⟩

/-- Options without a configuration. -/
def linkedOptions : Options := { root? := some ⟨"t"⟩, noConfig := true, year? := some 2025 }

/-- Where the runs take place. -/
def linkedAround : Surroundings := ⟨none, 2024, "", 1, 7, false, false⟩

/-- The session of the runs. -/
def linkedSession : Session where
  settings := .default ⟨"t"⟩
  registry := .builtin
  year := 2025
  reportPath? := none
  presentation := linkedOptions.presentation linkedAround
  surroundings := linkedAround

theorem wellFormed_linkedTree : linkedTree.WellFormed :=
  .of_entries (by decide) (by decide +kernel)

theorem begin_linkedTree :
    ((begin linkedOptions linkedAround).run linkedTree).1 = .ok linkedSession := rfl

theorem read_linkedTree : linkedTree.read linkedSession.notice.path =
    .ok (encode "Copyright 2018-2023\n".toList) := by decide

theorem vacant_linkedTree {p : Path}
    (h : linkedTree.linkStatus (p.temporarySibling linkedSession.tag) = .error .noEntry)
    (st : Status) : linkedTree.linkStatus (p.temporarySibling linkedSession.tag) ≠ .ok st := by
  rw [h]
  exact fun hOk => by cases hOk

/-- A target that is a link to the notice document means the document. On a disk on which nothing
can be moved it stays as it is, and the link does, too. -/
theorem fix_edits_document_behind_link :
    linkedSession.TargetsNotice immovable linkedTree ⟨"t/same"⟩ ∧
      linkedSession.Edits immovable linkedTree ⟨"t/same"⟩
        (((runCommand ⟨linkedOptions, .fix "t/same"⟩ linkedAround).failing immovable).run
          linkedTree).2 := by
  have hCanonical : linkedTree.canonical ⟨"t/same"⟩ = .ok ⟨"/t/NOTICE"⟩ ∧
      linkedTree.canonical linkedSession.notice.path = .ok ⟨"/t/NOTICE"⟩ := by decide
  have hBegin : (((begin linkedOptions linkedAround).failing immovable).run linkedTree).1 =
      .ok linkedSession := rfl
  refine ⟨Or.inl (.leads hCanonical.1 hCanonical.2), ?_⟩
  exact fix_edits_target wellFormed_linkedTree hBegin rfl (by decide) read_linkedTree
    (vacant_linkedTree (by decide)) (vacant_linkedTree (by decide)) fun _ _ => rfl

/-- The canonical path does not settle what a target means: with a separator behind it the name of
the notice document leads nowhere, and the document is repaired all the same. -/
theorem fix_edits_document_behind_separator :
    ¬ ∀ (fs : FileSystem) (o : Options) (around : Surroundings) (s : Session) (target : String)
        (document : Bytes), fs.WellFormed → ((begin o around).run fs).1 = .ok s →
      o.reportPath? = none → target ≠ everything → fs.read s.notice.path = .ok document →
      (∀ st, fs.linkStatus (s.notice.path.temporarySibling s.tag) ≠ .ok st) →
      (∀ st, fs.linkStatus
        ((((s.resolveTarget ⟨target⟩).run fs).1).temporarySibling s.tag) ≠ .ok st) →
      (∀ p ∈ [⟨target⟩, ((s.resolveTarget ⟨target⟩).run fs).1],
        (∀ n, p.components = [.name n] → s.notice.path.fileName? ≠ some n) ∧
          ∀ c, fs.canonical p = .ok c → fs.canonical s.notice.path ≠ .ok c) →
      Untouched s.notice.path fs ((runCommand ⟨o, .fix target⟩ around).run fs).2 := by
  intro hClaim
  have hResolved : ((linkedSession.resolveTarget ⟨"t/NOTICE/"⟩).run linkedTree).1 =
      ⟨"t/NOTICE/"⟩ := by decide
  have hComponents : (⟨"t/NOTICE/"⟩ : Path).components = [.name "t", .name "NOTICE"] := by
    decide
  have hNowhere : linkedTree.canonical ⟨"t/NOTICE/"⟩ = .error .notDirectory := by decide
  have hUntouched := hClaim linkedTree linkedOptions linkedAround linkedSession "t/NOTICE/" _
    wellFormed_linkedTree begin_linkedTree rfl (by decide) read_linkedTree
    (vacant_linkedTree (by decide)) (vacant_linkedTree (by decide)) <| by
      rw [hResolved]
      intro p hMem
      obtain rfl : p = ⟨"t/NOTICE/"⟩ := by simpa using hMem
      rw [hComponents, hNowhere]
      exact ⟨fun n hBare => by simp at hBare, fun c hPath => by cases hPath⟩
  have hRead : ((runCommand ⟨linkedOptions, .fix "t/NOTICE/"⟩ linkedAround).run linkedTree).2.read
      linkedSession.notice.path = .ok (encode "Copyright 2018-2025\n".toList) := by
    decide +kernel
  have hSame := hUntouched.content
  rw [hRead, read_linkedTree] at hSame
  exact absurd (Except.ok.inj hSame) (by decide +kernel)

end Session

end LicenseAudit
