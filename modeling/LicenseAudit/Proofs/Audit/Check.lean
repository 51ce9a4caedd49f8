import LicenseAudit.Audit.Engine
import LicenseAudit.Proofs.Increasing
import LicenseAudit.Proofs.Path.Order
import LicenseAudit.Proofs.Pool.Failing
import LicenseAudit.Proofs.Pool.Outcome
import LicenseAudit.Proofs.Selection.Walk
import Mathlib.Data.List.Pairwise

/-!
# What a check reports

A check asks one question of each eligible file, in whatever order its pool does. What it reports
follows from the answers alone, also on a disk that refuses calls, such as reading a file for lack
of permission.

* `CheckOutcome.Sorts` — an outcome that sorts given answers;
* `Engine.verdict` — what is thought of a file by what reading it is answered;
* `Engine.Reports` — an outcome that lists what is thought of the files, in the order of paths.

## Results

* `eligible_found` — the eligible files are apart from each other, take a header and are no links.
* `CheckOutcome.Sorts.unique`, `sorts_collectCheck` — there is one such outcome, however the answers
  are ordered.
* `exists_check` — a check whose walk ends well ends well, and reports what reading the files is
  answered.
* `check_reports` — the schedule of a check does not matter.
-/

namespace LicenseAudit

open FileSystem

-- ---------------------------------------------------------------------------
-- Eligible files
-- ---------------------------------------------------------------------------

theorem FileSystem.Apart.symm {fs : FileSystem} {p q : Path} (h : fs.Apart p q) :
    fs.Apart q p where
  spelled := h.spelled.symm
  placed := fun dir n hq hp => h.placed dir n hp hq

-- ---------------------------------------------------------------------------
-- Sorted answers
-- ---------------------------------------------------------------------------

/-- The failures of different files are strictly in the order of paths. -/
theorem FileError.increasing_sorted {es : List FileError}
    (hDiffer : es.Pairwise fun x y => x.path.key ≠ y.path.key) :
    (FileError.sorted es).Pairwise fun x y => x.path.key < y.path.key := by
  refine increasing_mergeSort (fun x y => ?_) hDiffer
  rw [Bool.not_eq_true', decide_eq_false_iff_not, not_lt]

/-- Failures of different files are sorted alike, in whatever order they come. -/
theorem FileError.sorted_congr {es es' : List FileError} (h : es'.Perm es)
    (hDiffer : es.Pairwise fun x y => x.path.key ≠ y.path.key) :
    FileError.sorted es' = FileError.sorted es := by
  have hDiffer' : es'.Pairwise fun x y => x.path.key ≠ y.path.key :=
    h.symm.pairwise hDiffer fun hKeys => hKeys.symm
  refine eq_of_increasing (increasing_sorted hDiffer') (increasing_sorted hDiffer) fun x => ?_
  rw [sorted, sorted, List.mem_mergeSort, List.mem_mergeSort, h.mem_iff]

/-- The outcome lists the files that lack the marker by the answers about them, and the failures,
each in the order of paths. -/
structure CheckOutcome.Sorts (c : CheckOutcome) (answer : Path → Except FileError Bool)
    (files : List Path) : Prop where
  missing    : ∀ p, p ∈ c.missing ↔ p ∈ files ∧ answer p = .ok false
  increasing : c.missing.Pairwise fun p q => p.key < q.key
  failures   : ∀ x, x ∈ c.failures ↔ ∃ p ∈ files, answer p = .error x
  ordered    : c.failures.Pairwise fun x y => x.path.key < y.path.key

namespace CheckOutcome.Sorts

variable {answer : Path → Except FileError Bool} {files : List Path} {c c' : CheckOutcome}

/-- Answers are sorted in one way only. -/
theorem unique (h : c.Sorts answer files) (h' : c'.Sorts answer files) : c = c' := by
  have hMissing : c.missing = c'.missing :=
    eq_of_increasing h.increasing h'.increasing fun p =>
      (h.missing p).trans (h'.missing p).symm
  have hFailures : c.failures = c'.failures :=
    eq_of_increasing h.ordered h'.ordered fun x => (h.failures x).trans (h'.failures x).symm
  cases c
  cases c'
  exact congr (congrArg CheckOutcome.mk hMissing) hFailures

/-- The files that lack the marker and those that failed are all different. -/
theorem differ (h : c.Sorts answer files) (hPaths : ∀ p x, answer p = .error x → x.path = p)
    (hDiffer : files.Pairwise fun p q => p.key ≠ q.key) :
    (c.missing ++ c.failures.map FileError.path).Pairwise fun p q => p.key ≠ q.key := by
  refine List.pairwise_append.mpr ⟨h.increasing.imp ne_of_lt, ?_, ?_⟩
  · exact List.pairwise_map.mpr (h.ordered.imp ne_of_lt)
  · intro p hp q hq
    obtain ⟨x, hx, rfl⟩ := List.mem_map.mp hq
    obtain ⟨hFile, hLacks⟩ := (h.missing p).mp hp
    obtain ⟨q, hOther, hFails⟩ := (h.failures x).mp hx
    rw [hPaths q x hFails]
    have hSymm : Std.Symm fun p q : Path => p.key ≠ q.key := ⟨fun _ _ hKeys => hKeys.symm⟩
    refine hDiffer.forall hFile hOther ?_
    rintro rfl
    rw [hLacks] at hFails
    cases hFails

end CheckOutcome.Sorts

namespace Engine

variable {e : Engine} {fs : FileSystem} {refusals : Call → Option IoError} {root : Path}
  {files : List Path}

/-- A file is included if its name is not left out, if it is no link, and if it takes a header. -/
theorem answer_includes_iff {p : Path} {reply : (c : Call) → c.Reply} :
    (e.selection.includes p).answer reply = true ↔
      e.exclusions.files.matchesPath p = false ∧
      (∀ s, reply (.linkStatus p) = .ok s → s.kind ≠ .link) ∧ e.headers.supports p = true := by
  rw [Selection.includes, Filter.answer_accepts_iff]
  simp only [selection, List.forall_mem_cons, List.not_mem_nil, false_imp_iff, implies_true,
    and_true, Rule.answer_unnamed_iff, Rule.answer_noLink_iff, Rule.answer_only_iff]

/-- A directory is entered if its name is not left out. -/
theorem answer_descends_iff {p : Path} {reply : (c : Call) → c.Reply} :
    (e.selection.descends p).answer reply = true ↔
      e.exclusions.directories.matchesPath p = false := by
  rw [Selection.descends, Filter.answer_accepts_iff, selection, List.forall_mem_singleton,
    Rule.answer_unnamed_iff]

theorem eligible_readOnly (e : Engine) (root : Path) : (e.eligible root).ReadOnly :=
  (walk_surveys root e.selection).readOnly

theorem eligible_failing (e : Engine) (root : Path) (faults : Call → Option Fault) :
    (e.eligible root).failing faults = (e.eligible root).refusing (Program.causes faults) :=
  Program.failing_eq_refusing_of_readOnly (eligible_readOnly e root) faults

theorem eligible_snd_failing {faults : Call → Option Fault} :
    (((e.eligible root).failing faults).run fs).2 = fs := by
  rw [eligible_failing]
  exact Program.run_snd_of_readOnly ((eligible_readOnly e root).refusing _) fs

/-- Refusals that no call of a walk meets do not show in it. -/
theorem eligible_refusing (h : ∀ c, c.surveys = true → refusals c = none) :
    (e.eligible root).refusing refusals = e.eligible root :=
  Program.refusing_of_only ((walk_surveys root e.selection).mono fun c hSurveys => h c hSurveys)

/-- The eligible files are apart from each other, take a header and are not told to be links. -/
theorem eligible_found (hTree : fs.WellFormed)
    (h : (((e.eligible root).refusing refusals).run fs).1 = .ok files) :
    (∀ p ∈ files, e.headers.supports p = true ∧
      ∀ s, fs.reply refusals (.linkStatus p) = .ok s → s.kind ≠ .link) ∧
    files.Pairwise fs.Apart := by
  have hIncluded : ∀ p, (e.selection.includes p).answer (fs.reply refusals) = true →
      e.headers.supports p = true ∧
        ∀ s, fs.reply refusals (.linkStatus p) = .ok s → s.kind ≠ .link := by
    intro p hIn
    obtain ⟨-, hNoLink, hSupports⟩ := answer_includes_iff.mp hIn
    exact ⟨hSupports, hNoLink⟩
  rw [Program.run_refusing (eligible_readOnly e root)] at h
  obtain ⟨hAccepted, hApart⟩ := walk_found hTree (fun _ _ => FileSystem.list_of_reply)
    (fun p hIn => (hIncluded p hIn).2) h
  exact ⟨fun p hMem => hIncluded p (hAccepted p hMem), hApart⟩

/-- No two eligible files are spellings of one path. -/
theorem eligible_differ (hTree : fs.WellFormed)
    (h : (((e.eligible root).refusing refusals).run fs).1 = .ok files) :
    files.Pairwise fun p q => p.key ≠ q.key :=
  (eligible_found hTree h).2.imp fun hApart => hApart.spelled

/-- File systems that differ in file contents only have the same eligible files. -/
theorem eligible_congr {fs' : FileSystem} (h : fs.Alike fs') (hTree : fs.WellFormed)
    (hTree' : fs'.WellFormed) (e : Engine) (root : Path) (refusals : Call → Option IoError) :
    (((e.eligible root).refusing refusals).run fs').1 =
      (((e.eligible root).refusing refusals).run fs).1 := by
  simp only [Program.run_refusing (eligible_readOnly e root)]
  refine Program.answer_congr (walk_surveys root e.selection) fun c hSurveys => ?_
  rw [FileSystem.reply, FileSystem.reply, h.perform hTree hTree' hSurveys]

-- ---------------------------------------------------------------------------
-- One file
-- ---------------------------------------------------------------------------

/-- Whether a file carries the marker, or why it cannot be read, by what reading it is answered. -/
def verdict (e : Engine) (p : Path) : Except IoError Bytes → Except FileError Bool
  | .ok content => .ok (carries content e.marker)
  | .error cause => .error (.read p cause)

theorem verdict_eq_error_iff {p : Path} {reply : Except IoError Bytes} {x : FileError} :
    e.verdict p reply = .error x ↔ ∃ cause, reply = .error cause ∧ x = .read p cause := by
  cases reply with
  | error cause => simp [verdict, eq_comm]
  | ok content => simp [verdict]

/-- A failure names the file that could not be read. -/
theorem path_of_verdict {p : Path} {reply : Except IoError Bytes} {x : FileError}
    (h : e.verdict p reply = .error x) : x.path = p := by
  obtain ⟨cause, -, rfl⟩ := verdict_eq_error_iff.mp h
  rfl

/-- A file of which is known whether it carries the marker can be read. -/
theorem exists_content {p : Path} {reply : Except IoError Bytes} {b : Bool}
    (h : e.verdict p reply = .ok b) :
    ∃ content, reply = .ok content ∧ carries content e.marker = b := by
  cases reply with
  | error cause => cases h
  | ok content => exact ⟨content, rfl, Except.ok.inj h⟩

theorem inspect_readOnly (e : Engine) (p : Path) : (e.inspect p).ReadOnly := by
  refine Program.Only.bind (p := Program.read p) (Program.only_ask rfl) fun reply => ?_
  cases reply <;> exact Program.only_pure _

theorem answer_inspect (reply : (c : Call) → c.Reply) (p : Path) :
    (e.inspect p).answer reply = (p, e.verdict p (reply (.read p))) := by
  rw [inspect, Program.answer_bind, Program.answer_read]
  cases reply (.read p) <;> rfl

-- ---------------------------------------------------------------------------
-- Outcomes of a check
-- ---------------------------------------------------------------------------

/-- The outcome lists the files that lack the marker and the failures, each in the order of paths,
by what reading the files is answered. -/
abbrev Reports (e : Engine) (told : Path → Except IoError Bytes) (files : List Path)
    (c : CheckOutcome) : Prop :=
  c.Sorts (fun p => e.verdict p (told p)) files

/-- Answers about different files, in any order, are collected into an outcome that lists the files
that lack the marker and the failures. -/
theorem mem_collectCheck_iff (answer : Path → Except FileError Bool) {found : List Path}
    (hDiffer : files.Pairwise fun p q => p.key ≠ q.key) (hFound : found.Perm files) :
    (∀ p, p ∈ (collectCheck (found.map fun p => (p, answer p))).missing ↔
      p ∈ files ∧ answer p = .ok false) ∧
    ∀ x, x ∈ (collectCheck (found.map fun p => (p, answer p))).failures ↔
      ∃ p ∈ files, answer p = .error x := by
  have hDiffer' : found.Pairwise fun p q => p.key ≠ q.key :=
    hFound.symm.pairwise hDiffer fun h => h.symm
  constructor
  · intro p
    rw [collectCheck, List.filterMap_map]
    generalize hList : _ ∘ (fun p => (p, answer p)) = listed?
    -- what is listed of one answer
    have hListed : ∀ {p q}, listed? p = some q ↔ q = p ∧ answer p = .ok false := by
      intro p q
      rw [← hList, Function.comp_apply]
      rcases answer p with x | b
      · simp
      · cases b <;> simp [eq_comm]
    rw [Path.mem_sortedSet, List.mem_filterMap]
    · constructor
      · rintro ⟨q, hMem, hThere⟩
        obtain ⟨rfl, hLacks⟩ := hListed.mp hThere
        exact ⟨hFound.mem_iff.mp hMem, hLacks⟩
      · rintro ⟨hMem, hLacks⟩
        exact ⟨p, hFound.mem_iff.mpr hMem, hListed.mpr ⟨rfl, hLacks⟩⟩
    · refine List.pairwise_filterMap.mpr (hDiffer'.imp ?_)
      intro p q hKeys p' hp q' hq
      rw [(hListed.mp hp).1, (hListed.mp hq).1]
      exact hKeys
  · intro x
    rw [collectCheck, FileError.sorted, List.mem_mergeSort, List.filterMap_map,
      List.mem_filterMap]
    refine exists_congr fun p => and_congr hFound.mem_iff ?_
    rw [Function.comp_apply]
    rcases answer p with y | b <;> simp

/-- Answers that name their files in what failed, and are asked of different files, are collected
into an outcome that sorts them, in whatever order they come. -/
theorem sorts_collectCheck {answer : Path → Except FileError Bool}
    (hPaths : ∀ p x, answer p = .error x → x.path = p)
    (hDiffer : files.Pairwise fun p q => p.key ≠ q.key) {found : List Path}
    (hFound : found.Perm files) :
    (collectCheck (found.map fun p => (p, answer p))).Sorts answer files := by
  obtain ⟨hMissing, hFailures⟩ := mem_collectCheck_iff answer hDiffer hFound
  refine ⟨hMissing, Path.increasing_sortedSet _, hFailures, FileError.increasing_sorted ?_⟩
  rw [List.filterMap_map]
  generalize hList : _ ∘ (fun p => (p, answer p)) = failed?
  -- what has failed names its file
  have hNamed : ∀ {p x}, failed? p = some x → x.path = p := by
    intro p x
    rw [← hList, Function.comp_apply]
    cases hAnswer : answer p with
    | ok b => simp
    | error y =>
      intro hSome
      obtain rfl := Option.some.inj hSome
      exact hPaths p _ hAnswer
  refine List.pairwise_filterMap.mpr
    ((hFound.symm.pairwise hDiffer fun h => h.symm).imp ?_)
  intro p q hKeys x hx y hy
  rwa [hNamed hx, hNamed hy]

/-- A check whose walk ends well ends well under every schedule, and reports what reading the files
is answered, also where it fails. -/
theorem exists_check_failing {faults : Call → Option Fault}
    (hDiffer : files.Pairwise fun p q => p.key ≠ q.key)
    (h : (((e.eligible root).failing faults).run fs).1 = .ok files) (schedule : List Pool.Event) :
    ∃ c, ((e.check root schedule).failing faults).run fs = (.ok c, fs) ∧
      e.Reports (fun p => fs.reply (Program.causes faults) (.read p)) files c := by
  obtain ⟨other, hPool⟩ := Pool.exists_run_failing (fun p => some <$> e.inspect p) faults
    schedule e.jobs files fs
  have hJobs : ∀ p, (e.inspect p).failing faults = (e.inspect p).refusing (Program.causes faults) :=
    fun p => Program.failing_eq_refusing_of_readOnly (e.inspect_readOnly p) faults
  have hLook : ∀ p, ((e.inspect p).refusing (Program.causes faults)).ReadOnly :=
    fun p => (e.inspect_readOnly p).refusing _
  obtain ⟨found, hFound, hRun⟩ := Pool.run_looking other e.jobs files hLook fs
  refine ⟨_, ?_, sorts_collectCheck (fun _ _ => path_of_verdict) hDiffer hFound⟩
  simp only [Program.failing_map, hJobs] at hPool
  simp only [check, Program.failing_bind, Program.run_bind, eligible_snd_failing, h, hPool, hRun,
    Program.run_refusing (e.inspect_readOnly _), answer_inspect]
  rfl

/-- A check fails with the walk of its files. -/
theorem check_failing_of_walk_error {faults : Call → Option Fault} {failure : WalkError}
    (h : (((e.eligible root).failing faults).run fs).1 = .error failure)
    (schedule : List Pool.Event) :
    ((e.check root schedule).failing faults).run fs = (.error (.walk failure), fs) := by
  simp only [check, Program.failing_bind, Program.run_bind, eligible_snd_failing, h]
  rfl

theorem exists_check (hDiffer : files.Pairwise fun p q => p.key ≠ q.key)
    (h : (((e.eligible root).refusing refusals).run fs).1 = .ok files)
    (schedule : List Pool.Event) :
    ∃ c, ((e.check root schedule).refusing refusals).run fs = (.ok c, fs) ∧
      e.Reports (fun p => fs.reply refusals (.read p)) files c := by
  rw [Program.refusing_eq_failing] at h ⊢
  have hCheck := exists_check_failing hDiffer h schedule
  rwa [Program.causes_refused] at hCheck

theorem check_of_walk_error {failure : WalkError}
    (h : (((e.eligible root).refusing refusals).run fs).1 = .error failure)
    (schedule : List Pool.Event) :
    ((e.check root schedule).refusing refusals).run fs = (.error (.walk failure), fs) := by
  rw [Program.refusing_eq_failing] at h ⊢
  exact check_failing_of_walk_error h schedule

/-- **The schedule of a check does not matter.** A check that ends well ends with the same outcome
under every schedule. -/
theorem check_reports {c : CheckOutcome} {schedule : List Pool.Event}
    (hDiffer : files.Pairwise fun p q => p.key ≠ q.key)
    (hFiles : (((e.eligible root).refusing refusals).run fs).1 = .ok files)
    (h : (((e.check root schedule).refusing refusals).run fs).1 = .ok c) :
    e.Reports (fun p => fs.reply refusals (.read p)) files c ∧
      ∀ other, ((e.check root other).refusing refusals).run fs = (.ok c, fs) := by
  obtain ⟨c₁, hRun₁, hReports₁⟩ := exists_check hDiffer hFiles schedule
  rw [hRun₁] at h
  obtain rfl : c₁ = c := Except.ok.inj h
  refine ⟨hReports₁, fun other => ?_⟩
  obtain ⟨c₂, hRun₂, hReports₂⟩ := exists_check hDiffer hFiles other
  rwa [hReports₂.unique hReports₁] at hRun₂

end Engine

end LicenseAudit
