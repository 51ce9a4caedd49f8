import LicenseAudit.Proofs.Audit.Interleaving
import LicenseAudit.Proofs.CommandLine.Exit
import LicenseAudit.Proofs.Path.Shown
import LicenseAudit.Proofs.Program.Cause
import LicenseAudit.Proofs.Selection.Root
import LicenseAudit.Proofs.Text.Lossy

/-!
# Findings stay apart

What a walk finds below its root is shown by the names that lead to it, whatever the spelling of
the root. So no two files that an audit finds are shown alike: not in the lines that are printed,
and not in the entries of a report. The line about a failure holds the path twice, once as it is
shown and once as it is written, and the reason of the failure in the end. Names are texts here; of
names that are not UTF-8 some are shown alike. And not every file that received a header is listed.

* `Path.IsBelow` — a path that leads from the root over some names;
* `Findings` — the listed files and the failures of an audit of one tree;
* `CheckOutcome.ShownApart`, `FixAllOutcome.ShownApart` — no two findings are shown alike.

## Results

* `IsBelow.shown` — a path below the root is shown by its names.
* `fromRoot_placed` — where the paths lie that a walk finds.
* `path_eq_of_shownText` — the text of a failure tells the file.
* `exists_addedFiles_eq` — the lines about files that received a header.
* `findings_stay_apart` — no two findings of an audit are shown alike.
* `not_all_findings_shown` — a file that is not listed, and two names that are shown alike.
-/

namespace LicenseAudit

-- ---------------------------------------------------------------------------
-- Below the root
-- ---------------------------------------------------------------------------

namespace Path

variable {root p q : Path}

/-- The path leads from the root over one or more proper names. -/
def IsBelow (root p : Path) : Prop :=
  ∃ n names, p = root.below (n :: names) ∧ ∀ m ∈ n :: names, ProperName m

/-- A path below the root is shown by the names behind it. -/
theorem IsBelow.shown (h : root.IsBelow p) :
    ∃ names, names ≠ [] ∧ p.components = root.components ++ names.map .name ∧
      p.shownFrom root = "/".intercalate names := by
  obtain ⟨n, names, rfl, hProper⟩ := h
  have hComponents : (root.below (n :: names)).components =
      root.components ++ (n :: names).map .name := components_below hProper
  exact ⟨n :: names, List.cons_ne_nil n names, hComponents,
    shownFrom_names (List.cons_ne_nil n names) hProper hComponents⟩

/-- A path below the root is written behind the lead of the root as it is shown. -/
theorem IsBelow.text_eq (h : root.IsBelow p) : p.text = root.lead ++ p.shownFrom root := by
  obtain ⟨n, names, rfl, hProper⟩ := h
  have hSteps : ∀ c ∈ (n :: names).map Component.name, c.Step := by
    rw [List.forall_mem_map]
    exact fun m hMem => .name (hProper m hMem)
  have hTexts : ((n :: names).map Component.name).map Component.text = n :: names := by
    simp [Function.comp_def, Component.text]
  rw [shownFrom_names (List.cons_ne_nil n names) hProper (components_below hProper),
    ← along_names, text_along hSteps (by simp), hTexts]

/-- Below one root, different paths are shown differently. -/
theorem IsBelow.eq_of_shown (hp : root.IsBelow p) (hq : root.IsBelow q)
    (h : p.shownFrom root = q.shownFrom root) : p = q := by
  have hText : p.text = q.text := by rw [hp.text_eq, hq.text_eq, h]
  exact congrArg Path.mk hText

end Path

-- ---------------------------------------------------------------------------
-- Walks
-- ---------------------------------------------------------------------------

namespace Walk

variable {root : Path} {selection : Selection} {reply : (c : Call) → c.Reply} {found : List Path}

/-- What a walk inside a directory finds lies below the directory. -/
theorem inside_below (hLists : ListsInOrder reply) {depth : Nat} {dir : Path}
    (h : (inside selection depth dir).answer reply = .ok found) : ∀ p ∈ found, dir.IsBelow p :=
  fun p hMem => ((inside_ordered hLists h).1 p hMem).2

/-- **Where the paths lie that a walk finds.** A walk finds nothing but its root, or what it finds
lies below the root; if the root is a link, the walk may have taken the link itself beside. -/
theorem fromRoot_placed (hLists : ListsInOrder reply)
    (h : (fromRoot root selection).answer reply = .ok found) :
    (∀ p ∈ found, p = root) ∨
      ∀ p ∈ found, root.IsBelow p ∨ p = root ∧ (selection.includes root).answer reply = true ∧
        ∃ s, reply (.linkStatus root) = .ok s ∧ s.kind = .link := by
  have hAlone : ∀ {b : Bool}, ∀ p ∈ (if b then [root] else []), p = root := by
    intro b p hMem
    cases b with
    | false => cases hMem
    | true => exact List.mem_singleton.mp hMem
  cases hStatus : reply (.linkStatus root) with
  | error cause =>
    rw [fromRoot, Program.answer_bind, Program.answer_linkStatus, hStatus] at h
    cases h
  | ok s =>
    cases hKind : s.kind with
    | file =>
      rw [answer_fromRoot_file hStatus hKind] at h
      cases h
      exact Or.inl hAlone
    | directory =>
      rw [answer_fromRoot_directory hStatus hKind] at h
      split_ifs at h
      · exact Or.inr fun p hMem => Or.inl (inside_below hLists h p hMem)
      · cases h
        exact Or.inl fun p hMem => absurd hMem List.not_mem_nil
    | link =>
      cases hTarget : reply (.status root) with
      | error cause =>
        rw [fromRoot, Program.answer_bind, Program.answer_linkStatus, hStatus] at h
        simp only [hKind, Program.answer_bind, Program.answer_status, hTarget] at h
        cases h
      | ok target =>
        by_cases hDirectory : target.kind = .directory
        · rw [answer_fromRoot_link hStatus hKind hTarget hDirectory] at h
          obtain ⟨more, hMore, rfl⟩ := map_eq_ok_iff.mp h
          refine Or.inr fun p hMem => ?_
          rcases List.mem_append.mp hMem with hSelf | hBelow
          · by_cases hTakes : (selection.includes root).answer reply = true
            · exact Or.inr ⟨hAlone p hSelf, hTakes, s, rfl, hKind⟩
            · rw [if_neg hTakes] at hSelf
              cases hSelf
          · exact Or.inl (inside_below hLists hMore p hBelow)
        · rw [answer_fromRoot_link_file hStatus hKind hTarget hDirectory] at h
          cases h
          exact Or.inl hAlone

end Walk

-- ---------------------------------------------------------------------------
-- Failures
-- ---------------------------------------------------------------------------

namespace FileError

variable {root : Path} {x y : FileError}

/-- Why the file failed. -/
def cause : FileError → IoError
  | read _ cause | write _ cause => cause

/-- What could not be done with the file. -/
def verb : FileError → String
  | read _ _ => "read"
  | write _ _ => "write"

theorem message_eq (x : FileError) :
    x.message = "Failed to " ++ x.verb ++ " " ++ x.path.text ++ ": " ++ x.cause.message := by
  cases x <;> rfl

/-- The text about a failure in output about a root. -/
def shownText (x : FileError) (root : Path) : String :=
  x.path.shownFrom root ++ " => " ++ x.message

theorem shownText_eq (h : root.IsBelow x.path) :
    (x.shownText root).toList = (x.path.shownFrom root).toList ++ (" => Failed to ".toList ++
      (x.verb.toList ++ (' ' :: (root.lead.toList ++ ((x.path.shownFrom root).toList ++
        (": ".toList ++ x.cause.message.toList)))))) := by
  rw [shownText, message_eq, h.text_eq]
  simp [String.toList_append]

theorem exists_shownText_eq (x : FileError) (root : Path) :
    ∃ front, (x.shownText root).toList = front ++ x.cause.message.toList := by
  refine ⟨(x.path.shownFrom root ++ " => Failed to " ++ x.verb ++ " " ++ x.path.text ++
    ": ").toList, ?_⟩
  rw [shownText, message_eq]
  simp [String.toList_append]

/-- **The text of a failure tells the file.** The reason stands in the end and can be read off the
text, and the rest holds the shown path twice, so that its length tells where the path ends. -/
theorem path_eq_of_shownText (hx : root.IsBelow x.path) (hy : root.IsBelow y.path)
    (hStandard : x.cause.Standard) (hStandard' : y.cause.Standard)
    (h : x.shownText root = y.shownText root) : x.path = y.path := by
  refine hx.eq_of_shown hy (String.toList_inj.mp ?_)
  have hTexts := congrArg String.toList h
  have hCause : x.cause = y.cause := by
    obtain ⟨front, hFront⟩ := exists_shownText_eq x root
    obtain ⟨front', hFront'⟩ := exists_shownText_eq y root
    rw [hFront, hFront'] at hTexts
    exact IoError.eq_of_message_ends hStandard hStandard' hTexts
  rw [shownText_eq hx, shownText_eq hy] at hTexts
  have hVerb : ∀ z : FileError, z.verb.toList.length = 4 ∨ z.verb.toList.length = 5 := by
    intro z
    cases z with
    | read p cause => exact Or.inl (by decide : "read".toList.length = 4)
    | write p cause => exact Or.inr (by decide : "write".toList.length = 5)
  have hLength := congrArg List.length hTexts
  rw [hCause] at hLength
  simp only [List.length_append, List.length_cons] at hLength
  have hx' := hVerb x
  have hy' := hVerb y
  exact (List.append_inj hTexts (by omega)).1

end FileError

-- ---------------------------------------------------------------------------
-- Findings
-- ---------------------------------------------------------------------------

/-- The listed files and the failures of an audit of one tree: no path occurs twice, however it is
spelled, the paths lie below the root or are the root, and the failures have reasons without texts
of their own. -/
structure Findings (root : Path) (listed : List Path) (failures : List FileError) : Prop where
  different : (listed ++ failures.map FileError.path).Pairwise fun p q => p.key ≠ q.key
  placed    : (∀ p ∈ listed ++ failures.map FileError.path, p = root) ∨
    ∀ p ∈ listed ++ failures.map FileError.path, root.IsBelow p
  standard  : ∀ x ∈ failures, x.cause.Standard

namespace Findings

variable {root : Path} {listed : List Path} {failures : List FileError}

theorem nodup (h : Findings root listed failures) :
    (listed ++ failures.map FileError.path).Nodup :=
  h.different.imp fun hKeys hSame => hKeys (congrArg Path.key hSame)

/-- No two findings are shown alike. -/
theorem nodup_shown (h : Findings root listed failures) :
    ((listed ++ failures.map FileError.path).map fun p => p.shownFrom root).Nodup := by
  refine List.Nodup.map_on (fun p hp q hq hShown => ?_) h.nodup
  rcases h.placed with hRoot | hBelow
  · rw [hRoot p hp, hRoot q hq]
  · exact (hBelow p hp).eq_of_shown (hBelow q hq) hShown

/-- No two failures have one text. -/
theorem nodup_shownText (h : Findings root listed failures) :
    (failures.map fun x => x.shownText root).Nodup := by
  have hPaths : (failures.map FileError.path).Nodup := h.nodup.of_append_right
  have hMem : ∀ {x}, x ∈ failures → x.path ∈ listed ++ failures.map FileError.path :=
    fun hx => List.mem_append_right _ (List.mem_map_of_mem hx)
  refine List.Nodup.map_on (fun x hx y hy hText => ?_) hPaths.of_map
  refine List.inj_on_of_nodup_map hPaths hx hy ?_
  rcases h.placed with hRoot | hBelow
  · rw [hRoot _ (hMem hx), hRoot _ (hMem hy)]
  · exact FileError.path_eq_of_shownText (hBelow _ (hMem hx)) (hBelow _ (hMem hy))
      (h.standard x hx) (h.standard y hy) hText

end Findings

-- ---------------------------------------------------------------------------
-- Lines
-- ---------------------------------------------------------------------------

namespace Presentation

/-- The lines for the files themselves among those about files that received a header. -/
def listing (p : Presentation) (root : Path) (files : List Path) : List Line :=
  if p.volume = .quiet then [] else files.map fun file => .out ("  " ++ file.shownFrom root)

theorem length_remark_le (p : Presentation) (text : String) : (p.remark text).length ≤ 1 := by
  unfold remark
  split <;> simp

/-- Behind a heading the files that received a header are listed, as many as are to be listed, and a
line tells how many are left. -/
theorem exists_addedFiles_eq (p : Presentation) (root : Path) {files : List Path}
    (hSome : files ≠ []) : ∃ heading rest, heading.length ≤ 1 ∧ rest.length ≤ 1 ∧
      p.addedFiles root files =
        heading ++ p.listing root (files.take (p.listLength files.length)) ++ rest := by
  have hListing : ∀ shown : List Path,
      (shown.flatMap fun file => p.remark ("  " ++ file.shownFrom root)) =
        p.listing root shown := by
    intro shown
    simp only [remark, listing]
    split
    · simp
    · exact List.map_eq_flatMap.symm
  rw [addedFiles, if_neg (by simpa using hSome)]
  simp only [hListing]
  refine ⟨_, _, p.length_remark_le _, ?_, rfl⟩
  split
  · exact p.length_remark_le _
  · exact Nat.zero_le 1

variable {root : Path} {files : List Path}

theorem nodup_missingFiles (h : (files.map fun file => file.shownFrom root).Nodup) :
    (missingFiles root files).Nodup := by
  have hLine : Function.Injective fun text : String =>
      Line.out (text ++ " => missing Apache license header") :=
    fun a b hLines => String.append_left_inj _ |>.mp (Line.out.inj hLines)
  simpa [missingFiles, Function.comp_def] using h.map hLine

theorem nodup_listing (p : Presentation) (h : (files.map fun file => file.shownFrom root).Nodup) :
    (p.listing root files).Nodup := by
  have hLine : Function.Injective fun text : String => Line.out ("  " ++ text) :=
    fun a b hLines => String.append_right_inj _ |>.mp (Line.out.inj hLines)
  rw [listing]
  split
  · exact List.nodup_nil
  · simpa [Function.comp_def] using h.map hLine

theorem nodup_failures (p : Presentation) {failures : List FileError}
    (h : (failures.map fun x => x.shownText root).Nodup) : (p.failures root failures).Nodup := by
  have hLine : Function.Injective p.complaint :=
    fun a b hLines => String.append_right_inj _ |>.mp (Line.err.inj hLines)
  simpa [Presentation.failures, FileError.shownText, Function.comp_def] using h.map hLine

/-- Lines about failures are on the other stream than those about files. -/
theorem disjoint_failures (p : Presentation) {lines : List Line} (failures : List FileError)
    (hOut : ∀ line ∈ lines, ∃ text, line = .out text) :
    lines.Disjoint (p.failures root failures) := by
  intro line hLine hFailure
  obtain ⟨text, rfl⟩ := hOut line hLine
  obtain ⟨x, -, hComplaint⟩ := List.mem_map.mp hFailure
  cases hComplaint

end Presentation

-- ---------------------------------------------------------------------------
-- Outcomes
-- ---------------------------------------------------------------------------

/-- No two findings of a check are shown alike: all lines about them are different, and so are the
paths of all their entries in a report. -/
structure CheckOutcome.ShownApart (root : Path) (c : CheckOutcome) : Prop where
  lines   : ∀ p : Presentation,
    (Presentation.missingFiles root c.missing ++ p.failures root c.failures).Nodup
  entries : ∀ mode generatedAt, let r := (RunReport.start mode generatedAt).recordCheck c root
    (r.missing ++ r.failures.map FailureEntry.path).Nodup

/-- No two findings of a repair are shown alike: all lines about them are different, and so are the
paths of all their entries in a report. The files that received a header are listed between a
heading and a line about the rest, as many as are to be listed. -/
structure FixAllOutcome.ShownApart (root : Path) (o : FixAllOutcome) : Prop where
  lines   : ∀ p : Presentation, (p.listing root o.fixed ++ p.failures root o.failures).Nodup
  listed  : ∀ p : Presentation, o.fixed ≠ [] → ∃ heading rest, heading.length ≤ 1 ∧
    rest.length ≤ 1 ∧ p.addedFiles root o.fixed =
      heading ++ p.listing root (o.fixed.take (p.listLength o.fixed.length)) ++ rest
  entries : ∀ mode generatedAt, let r := (RunReport.start mode generatedAt).recordFixAll o root
    (r.fixed ++ r.failures.map FailureEntry.path).Nodup

namespace Findings

variable {root : Path}

theorem nodup_lines {listed : List Path} {failures : List FileError} {lines : List Line}
    (h : Findings root listed failures) (p : Presentation) (hLines : lines.Nodup)
    (hOut : ∀ line ∈ lines, ∃ text, line = .out text) :
    (lines ++ p.failures root failures).Nodup :=
  hLines.append (p.nodup_failures h.nodup_shownText) (p.disjoint_failures failures hOut)

theorem checkShownApart {c : CheckOutcome} (h : Findings root c.missing c.failures) :
    c.ShownApart root := by
  have hShown := h.nodup_shown
  rw [List.map_append] at hShown
  refine ⟨fun p => ?_, fun mode generatedAt => ?_⟩
  · have hLines := Presentation.nodup_missingFiles hShown.of_append_left
    refine h.nodup_lines p hLines fun line hMem => ?_
    obtain ⟨file, -, rfl⟩ := List.mem_map.mp hMem
    exact ⟨_, rfl⟩
  · simpa [RunReport.recordCheck, RunReport.recordFailures_eq, RunReport.start,
      Function.comp_def] using hShown

theorem fixAllShownApart {o : FixAllOutcome} (h : Findings root o.fixed o.failures) :
    o.ShownApart root := by
  have hShown := h.nodup_shown
  rw [List.map_append] at hShown
  refine ⟨fun p => ?_, fun p hSome => p.exists_addedFiles_eq root hSome, fun mode generatedAt => ?_⟩
  · refine h.nodup_lines p (p.nodup_listing hShown.of_append_left) fun line hMem => ?_
    rw [Presentation.listing] at hMem
    split at hMem
    · cases hMem
    · obtain ⟨file, -, rfl⟩ := List.mem_map.mp hMem
      exact ⟨_, rfl⟩
  · simpa [RunReport.recordFixAll, RunReport.recordFailures_eq, RunReport.start,
      Function.comp_def] using hShown

end Findings

-- ---------------------------------------------------------------------------
-- Audits
-- ---------------------------------------------------------------------------

namespace Engine

variable {e : Engine} {fs : FileSystem} {refusals : Call → Option IoError} {root : Path}

/-- The eligible files lie below the root, unless the root is the only one. -/
theorem eligible_placed (hTree : fs.WellFormed) {files : List Path}
    (h : (((e.eligible root).refusing refusals).run fs).1 = .ok files) :
    (∀ p ∈ files, p = root) ∨ ∀ p ∈ files, root.IsBelow p := by
  rw [Program.run_refusing (eligible_readOnly e root)] at h
  refine (Walk.fromRoot_placed (Walk.listsInOrder_reply hTree refusals)
    (answer_walk_eq_ok_iff.mp h)).imp_right fun hPlaced p hMem => ?_
  -- links are not eligible, so that a root that is a link is not among the files
  rcases hPlaced p hMem with hBelow | ⟨-, hTakes, s, hStatus, hKind⟩
  · exact hBelow
  · exact absurd hKind ((answer_includes_iff.mp hTakes).2.1 s hStatus)

/-- What a check finds. -/
theorem check_findings (hTree : fs.WellFormed)
    (hRefusals : ∀ c cause, refusals c = some cause → cause.Standard) {schedule : List Pool.Event}
    {c : CheckOutcome} (h : (((e.check root schedule).refusing refusals).run fs).1 = .ok c) :
    Findings root c.missing c.failures ∧
      ((e.check root schedule).refusing refusals).run fs = (.ok c, fs) := by
  cases hWalk : (((e.eligible root).refusing refusals).run fs).1 with
  | error failure =>
    rw [check_of_walk_error hWalk] at h
    cases h
  | ok files =>
    have hDiffer := eligible_differ hTree hWalk
    obtain ⟨c', hRun, hSorts⟩ := exists_check hDiffer hWalk schedule
    obtain rfl : c' = c := by
      rw [hRun] at h
      exact Except.ok.inj h
    have hFiles : ∀ p ∈ c'.missing ++ c'.failures.map FileError.path, p ∈ files := by
      intro p hMem
      rcases List.mem_append.mp hMem with hMissing | hFailed
      · exact ((hSorts.missing p).mp hMissing).1
      · obtain ⟨x, hx, rfl⟩ := List.mem_map.mp hFailed
        obtain ⟨q, hFile, hFails⟩ := (hSorts.failures x).mp hx
        rwa [path_of_verdict hFails]
    refine ⟨⟨hSorts.differ (fun _ _ => path_of_verdict) hDiffer, ?_, fun x hx => ?_⟩, hRun⟩
    · exact (eligible_placed hTree hWalk).imp (fun hRoot p hMem => hRoot p (hFiles p hMem))
        fun hBelow p hMem => hBelow p (hFiles p hMem)
    · obtain ⟨q, -, hFails⟩ := (hSorts.failures x).mp hx
      obtain ⟨cause, hReply, rfl⟩ := verdict_eq_error_iff.mp hFails
      rintro text rfl
      exact FileSystem.reply_tells hRefusals fs (.read q) text (congrArg some hReply.symm)

/-- A repair that fails names its file, and fails for the reason of a call. -/
theorem fixFile_endsTold (e : Engine) (p : Path) :
    (e.fixFile p).EndsTold fun outcome =>
      ∀ x, outcome = .error x → x.path = p ∧ x.cause.Standard := by
  have hOk : ∀ outcome : FixOutcome, ∀ x : FileError,
      (Except.ok outcome : Except FileError FixOutcome) = .error x →
        x.path = p ∧ x.cause.Standard := by
    intro outcome x hError
    cases hError
  rw [fixFile]
  split
  · exact hOk _
  · split
    · exact hOk _
    · refine (Program.endsTold_read p).bind fun found hFound => ?_
      rcases found with cause | content
      · rintro x hError
        cases hError
        exact ⟨rfl, FileSystem.failsStandard_error.mp hFound⟩
      · simp only
        split
        · exact hOk _
        · refine (Program.endsTold_replace e.tag p _).bind fun replaced hReplaced => ?_
          rcases replaced with cause | done
          · rintro x hError
            cases hError
            exact ⟨rfl, FileSystem.failsStandard_error.mp hReplaced⟩
          · exact hOk _

theorem repair_endsTold (e : Engine) (p : Path) :
    (e.repair p).EndsTold fun a =>
      a.1 = p ∧ ∀ x, a.2 = .error x → x.path = p ∧ x.cause.Standard :=
  (e.fixFile_endsTold p).bind fun _ hOutcome => And.intro rfl hOutcome

/-- What is collected from repairs of files that lack the marker. -/
theorem findings_collectFixes {listed : List Path} {failures : List FileError}
    (h : Findings root listed failures) {answers : List (Path × Except FileError FixOutcome)}
    (hCovers : (answers.map Prod.fst).Perm listed)
    (hPaths : ∀ a ∈ answers, ∀ x, a.2 = .error x → x.path = a.1 ∧ x.cause.Standard) :
    Findings root (collectFixes failures answers).fixed
      (collectFixes failures answers).failures := by
  have hDiffer : (answers.map Prod.fst ++ failures.map FileError.path).Pairwise
      fun p q => p.key ≠ q.key :=
    (hCovers.symm.append_right _).pairwise h.different fun hKeys => hKeys.symm
  obtain ⟨hAnswers, -, hBetween⟩ := List.pairwise_append.mp hDiffer
  rw [List.pairwise_map] at hAnswers
  have hFailures := differ_failures (fun a hMem x hError => (hPaths a hMem x hError).1) hDiffer
  have hFixed : ∀ {p}, p ∈ (collectFixes failures answers).fixed → (p, .ok .added) ∈ answers :=
    fun hMem => (mem_fixed_iff hAnswers).mp hMem
  -- every path is that of an answer or of an earlier failure
  have hIn : ∀ p ∈ (collectFixes failures answers).fixed ++
      (collectFixes failures answers).failures.map FileError.path,
      p ∈ listed ++ failures.map FileError.path := by
    intro p hMem
    rcases List.mem_append.mp hMem with hAdded | hFailed
    · exact List.mem_append_left _ (hCovers.mem_iff.mp (List.mem_map_of_mem (hFixed hAdded)))
    · obtain ⟨x, hx, rfl⟩ := List.mem_map.mp hFailed
      rcases mem_failures_iff.mp hx with hEarlier | ⟨a, ha, hError⟩
      · exact List.mem_append_right _ (List.mem_map_of_mem hEarlier)
      · rw [(hPaths a ha x hError).1]
        exact List.mem_append_left _ (hCovers.mem_iff.mp (List.mem_map_of_mem ha))
  refine ⟨List.pairwise_append.mpr ⟨?_, ?_, ?_⟩, ?_, ?_⟩
  · exact (ordered_collectFixes failures answers).fixed.imp ne_of_lt
  · rw [collectFixes_eq, List.pairwise_map]
    exact (FileError.increasing_sorted hFailures).imp ne_of_lt
  · intro p hp q hq
    obtain ⟨x, hx, rfl⟩ := List.mem_map.mp hq
    have hAnswer := hFixed hp
    rcases mem_failures_iff.mp hx with hEarlier | ⟨a, ha, hError⟩
    · exact hBetween p (List.mem_map_of_mem hAnswer) _ (List.mem_map_of_mem hEarlier)
    · rw [(hPaths a ha x hError).1]
      have hSymm : Std.Symm fun a b : Path × Except FileError FixOutcome => a.1.key ≠ b.1.key :=
        ⟨fun _ _ hKeys => hKeys.symm⟩
      refine hAnswers.forall hAnswer ha ?_
      rintro rfl
      cases hError
  · exact h.placed.imp (fun hRoot p hMem => hRoot p (hIn p hMem)) fun hBelow p hMem =>
      hBelow p (hIn p hMem)
  · intro x hMem
    rcases mem_failures_iff.mp hMem with hEarlier | ⟨a, ha, hError⟩
    · exact h.standard x hEarlier
    · exact (hPaths a ha x hError).2

/-- What a repair of a tree finds. -/
theorem fixAll_findings (hTree : fs.WellFormed)
    (hRefusals : ∀ c cause, refusals c = some cause → cause.Standard)
    {checking fixing : List Pool.Event} {o : FixAllOutcome}
    (h : (((e.fixAll root checking fixing).refusing refusals).run fs).1 = .ok o) :
    Findings root o.fixed o.failures := by
  simp only [fixAll, Program.refusing_bind, Program.run_bind] at h
  cases hCheck : (((e.check root checking).refusing refusals).run fs).1 with
  | error failure =>
    rw [hCheck] at h
    cases h
  | ok c =>
    obtain ⟨hFindings, hRun⟩ := check_findings hTree hRefusals hCheck
    obtain ⟨found, fs', hPool, hItems, hEnds⟩ := Pool.exists_told hRefusals e.repair_endsTold
      fixing e.jobs c.missing fs
    simp only [hRun, Program.refusing_bind, Program.run_bind, hPool] at h
    obtain rfl := Except.ok.inj h
    have hPaths : (found.map Prod.snd).map Prod.fst = found.map Prod.fst := by
      rw [List.map_map]
      exact List.map_congr_left fun answer hMem => (hEnds answer hMem).1
    refine findings_collectFixes hFindings (hPaths ▸ hItems) fun a hMem x hError => ?_
    obtain ⟨answer, hAnswer, rfl⟩ := List.mem_map.mp hMem
    obtain ⟨hPath, hFailed⟩ := hEnds answer hAnswer
    rw [hPath]
    exact hFailed x hError

end Engine

/-- **No two findings are shown alike.** Let a disk refuse calls, for reasons that have no texts of
their own. Whatever the root and its spelling, what a walk finds apart from the root is shown by the
names behind the root. So no two findings of a check or of a repair are shown alike, with any number
of workers and along all schedules. -/
theorem findings_stay_apart {fs : FileSystem} (hTree : fs.WellFormed)
    {refusals : Call → Option IoError}
    (hRefusals : ∀ c cause, refusals c = some cause → cause.Standard) (root : Path) :
    (∀ selection found, (((walk root selection).refusing refusals).run fs).1 = .ok found →
      ∀ p ∈ found, p ≠ root → ∃ names, names ≠ [] ∧
        p.components = root.components ++ names.map .name ∧
        p.shownFrom root = "/".intercalate names) ∧
    (∀ (e : Engine) schedule c,
      (((e.check root schedule).refusing refusals).run fs).1 = .ok c → c.ShownApart root) ∧
    ∀ (e : Engine) checking fixing o,
      (((e.fixAll root checking fixing).refusing refusals).run fs).1 = .ok o →
        o.ShownApart root := by
  refine ⟨fun selection found hFound p hMem hOther => ?_, fun e schedule c hCheck => ?_,
    fun e checking fixing o hFix => ?_⟩
  · rw [Program.run_refusing (walk_surveys root selection).readOnly] at hFound
    have hLists := Walk.listsInOrder_reply hTree refusals
    rcases Walk.fromRoot_placed hLists (answer_walk_eq_ok_iff.mp hFound) with hRoot | hPlaced
    · exact absurd (hRoot p hMem) hOther
    · rcases hPlaced p hMem with hBelow | ⟨hRoot, -⟩
      · exact hBelow.shown
      · exact absurd hRoot hOther
  · exact (Engine.check_findings hTree hRefusals hCheck).1.checkShownApart
  · exact (Engine.fixAll_findings hTree hRefusals hFix).fixAllShownApart

/-- The first of two files lacks the letter and the second one cannot be read: both are shown
without the root. -/
theorem findings_stay_apart_two_files :
    ∃ c, (((Engine.letterEngine.check ⟨"."⟩ []).refusing Engine.lockedFile).run
        (Engine.twoFiles [0x41] [0x4C])).1 = .ok c ∧ c.ShownApart ⟨"."⟩ ∧
      (∃ names, names ≠ [] ∧ (Path.mk "./b.rs").components = [.here] ++ names.map .name ∧
        (Path.mk "./b.rs").shownFrom ⟨"."⟩ = "/".intercalate names) := by
  have hRefusals : ∀ c cause, Engine.lockedFile c = some cause → cause.Standard := by
    intro c cause hRefused
    rw [Engine.lockedFile] at hRefused
    split at hRefused
    · cases hRefused
      exact IoError.standard_system 13
    · cases hRefused
  have hTree := Engine.wellFormed_twoFiles [0x41] [0x4C]
  obtain ⟨hWalk, hCheck, -⟩ := findings_stay_apart hTree hRefusals ⟨"."⟩
  have hFiles := Engine.eligible_lockedFile [0x41] [0x4C]
  obtain ⟨c, hRun, -⟩ := Engine.exists_check (Engine.eligible_differ hTree hFiles) hFiles []
  have hEnd := congrArg Prod.fst hRun
  exact ⟨c, hEnd, hCheck _ _ c hEnd, hWalk _ _ hFiles ⟨"./b.rs"⟩ (by simp) (by simp)⟩

-- ---------------------------------------------------------------------------
-- What is not shown
-- ---------------------------------------------------------------------------

/-- The names of twenty-one source files. -/
def manyNames : List String :=
  "abcdefghijklmnopqrstu".toList.map fun c => String.ofList [c, '.', 'g', 'o']

/-- The files below a root. -/
def manyFiles : List Path := manyNames.map fun n => (Path.mk "t").join ⟨n⟩

/-- **What is not shown.** Of so many files that received a header the last one is not listed. And
two names on disk that differ where they are not UTF-8 are shown alike. -/
theorem not_all_findings_shown :
    (manyFiles.Nodup ∧ (∀ p ∈ manyFiles, (Path.mk "t").IsBelow p) ∧
      ∃ p ∈ manyFiles, Line.out ("  " ++ p.shownFrom ⟨"t"⟩) ∉
        (⟨.normal, false, false⟩ : Presentation).addedFiles ⟨"t"⟩ manyFiles) ∧
    ∃ name name' : Bytes, name ≠ name' ∧ Text.lossy name = Text.lossy name' := by
  refine ⟨⟨by decide +kernel, fun p hMem => ?_, ⟨"t/u.go"⟩, by decide +kernel,
    by decide +kernel⟩, ?_⟩
  · have hProper : ∀ n ∈ manyNames, ProperName n := by decide +kernel
    obtain ⟨n, hName, rfl⟩ := List.mem_map.mp hMem
    exact ⟨n, [], rfl, List.forall_mem_singleton.mpr (hProper n hName)⟩
  · refine ⟨0xFF :: Text.encode ".go".toList, 0xFE :: Text.encode ".go".toList, by simp, ?_⟩
    rw [Text.lossy_stray rfl (by decide), Text.lossy_stray rfl (by decide)]

end LicenseAudit
