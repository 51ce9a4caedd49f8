import LicenseAudit.Proofs.Audit.Frame
import LicenseAudit.Proofs.FileSystem.Lists
import LicenseAudit.Proofs.Header.Marker
import LicenseAudit.Proofs.Selection.Growth

/-!
# What a repair leaves

A repair checks a tree and replaces every file that lacks the marker, several at a time. Every such
file ends up with the marker or is reported, and a check afterwards finds just the reported ones.
The disk may fail some calls, such as reading a file, moving its temporary file or removing it.

* `Engine.Accounts` — an outcome in which every file is accounted for;
* `Recovers` — a disk that can remove what a torn write has left.

## Results

* `Mending.accounts` — what the repairs of a pool answer accounts for every file.
* `Mending.missing_eq` — a check after the repairs finds the files that have failed.
* `fixAll_accounts` — repair is complete and accounted for, and a following check agrees.
-/

namespace LicenseAudit.Engine

open Text (encode)

variable {e : Engine} {r : Registry} {faults : Call → Option Fault} {fs fs' : FileSystem}
  {root p : Path} {files files' missing : List Path} {c c' : CheckOutcome}
  {site : Path → Site e.tag} {before : Path → Cells}
  {found : List (Path × (Path × Except FileError FixOutcome))}

-- ---------------------------------------------------------------------------
-- Accounts
-- ---------------------------------------------------------------------------

/-- The paths of the repaired files and of the failures make up those of the answers. -/
theorem perm_of_ended {answers : List (Path × Except FileError FixOutcome)}
    (hEnded : ∀ a ∈ answers, a.2 = .ok .added ∨ ∃ x, a.2 = .error x ∧ x.path = a.1) :
    (answers.filterMap added? ++ (answers.filterMap refused?).map FileError.path).Perm
      (answers.map Prod.fst) := by
  induction answers with
  | nil => exact List.Perm.refl _
  | cons a rest ih =>
    have hRest := ih fun b hMem => hEnded b (List.mem_cons_of_mem _ hMem)
    obtain ⟨p, outcome⟩ := a
    rcases hEnded (p, outcome) (List.mem_cons_self ..) with hAdded | ⟨x, hRefused, hPath⟩
    · obtain rfl : outcome = .ok .added := hAdded
      exact hRest.cons p
    · obtain rfl : outcome = .error x := hRefused
      obtain rfl : x.path = p := hPath
      exact List.perm_middle.trans (hRest.cons x.path)

/-- Every file is accounted for: a file that lacked the marker is repaired or has failed, nothing
else is repaired, earlier failures are carried over, and no file occurs twice, however its path
is spelled. -/
structure Accounts (c : CheckOutcome) (o : FixAllOutcome) : Prop where
  covered  : ∀ p ∈ c.missing, p ∈ o.fixed ∨ p ∈ o.failures.map FileError.path
  fixed    : ∀ p ∈ o.fixed, p ∈ c.missing
  carried  : ∀ x ∈ c.failures, x ∈ o.failures
  separate : (o.fixed ++ o.failures.map FileError.path).Pairwise fun p q => p.same q = false

/-- What answers about the files that lack the marker are collected into accounts for every file. -/
theorem accounts_collectFixes (hSeparate : (c.missing ++ c.failures.map FileError.path).Pairwise
      fun p q => p.key ≠ q.key) {answers : List (Path × Except FileError FixOutcome)}
    (hEnded : ∀ a ∈ answers, a.2 = .ok .added ∨ ∃ x, a.2 = .error x ∧ x.path = a.1)
    (hCovers : (answers.map Prod.fst).Perm c.missing) :
    Accounts c (collectFixes c.failures answers) := by
  have hAnswers : answers.Pairwise fun a b => a.1.key ≠ b.1.key := by
    rw [← List.pairwise_map (f := Prod.fst) (R := fun p q : Path => p.key ≠ q.key)]
    exact hCovers.symm.pairwise (List.pairwise_append.mp hSeparate).1 fun hKeys => hKeys.symm
  -- the accounts as a whole, up to order
  have hPerm : ((collectFixes c.failures answers).fixed ++
      (collectFixes c.failures answers).failures.map FileError.path).Perm
      (c.missing ++ c.failures.map FileError.path) := by
    rw [collectFixes_eq]
    have hFailures : ((FileError.sorted (c.failures ++ answers.filterMap refused?)).map
        FileError.path).Perm
        ((answers.filterMap refused?).map FileError.path ++ c.failures.map FileError.path) := by
      refine ((List.mergeSort_perm _ _).map FileError.path).trans ?_
      rw [List.map_append]
      exact List.perm_append_comm
    refine ((Path.sortedSet_perm (differ_added hAnswers)).append hFailures).trans ?_
    rw [← List.append_assoc]
    exact ((perm_of_ended hEnded).trans hCovers).append_right _
  refine ⟨?_, ?_, ?_, ?_⟩
  · intro p hMem
    exact List.mem_append.mp (hPerm.mem_iff.mpr (List.mem_append_left _ hMem))
  · intro p hMem
    exact hCovers.mem_iff.mp (List.mem_map_of_mem ((mem_fixed_iff hAnswers).mp hMem))
  · exact fun x hMem => mem_failures_iff.mpr (Or.inl hMem)
  · refine (hPerm.symm.pairwise hSeparate fun hKeys => hKeys.symm).imp ?_
    exact fun hKeys => Path.same_eq_false_iff.mpr hKeys

-- ---------------------------------------------------------------------------
-- After the repairs
-- ---------------------------------------------------------------------------

/-- What a torn write has left can be removed. -/
def Recovers (faults : Call → Option Fault) : Prop :=
  ∀ q content cause size, faults (.write q content) = some (.torn cause size) →
    faults (.remove q) = none

/-- On such a disk a temporary file that is left holds the whole new content of its file. -/
theorem Stray.exists_header {l : Location} (h : e.Stray faults fs fs' p l)
    (hRecovers : Recovers faults) : ∃ old header mode, e.headers.headerFor? p = some header ∧
      fs'.lookup? l = some (.file (insertHeader old (encode header.toList)) mode) := by
  obtain ⟨old, header, part, mode, -, hHeader, ⟨-, rfl⟩ | ⟨cause, size, hTorn, rfl⟩, hThere⟩ :=
    h.remnant
  · exact ⟨old, header, mode, hHeader, hThere⟩
  · exact absurd (hRecovers _ _ cause size hTorn) h.removal

/-- The file takes a header, and the header carries the marker. -/
def Marks (e : Engine) (p : Path) : Prop :=
  e.headers.supports p = true ∧
    ∃ header, e.headers.headerFor? p = some header ∧ Text.containsText header e.marker = true

theorem marks_of_carries (hHeaders : e.headers = r.source) (hMarker : r.Carries e.marker)
    (hSupports : e.headers.supports p = true) : e.Marks p := by
  refine ⟨hSupports, ?_⟩
  rw [hHeaders] at hSupports ⊢
  exact hMarker.exists_header hSupports

/-- Where its header is put in the file carries the marker. -/
theorem Marks.carries (h : e.Marks p) {header : String}
    (hHeader : e.headers.headerFor? p = some header) (content : Bytes) :
    LicenseAudit.carries (insertHeader content (encode header.toList)) e.marker = true := by
  obtain ⟨-, header', hHeader', hText⟩ := h
  obtain rfl := Option.some.inj (hHeader'.symm.trans hHeader)
  exact carries_insertHeader hText content

namespace Mending

variable (h : e.Mending faults fs fs' missing site before found)

include h

/-- A file that takes a header gets it, or its repair has failed. -/
theorem ended (hMarks : ∀ p ∈ missing, e.Marks p) {answer : Path × Except FileError FixOutcome}
    (hFound : (p, answer) ∈ found) :
    answer = (p, .ok .added) ∨ ∃ x, answer = (p, .error x) ∧ x.path = p := by
  have hMem := h.mem_missing hFound
  obtain ⟨hSupports, header, hHeader, -⟩ := hMarks p hMem
  have hEnd := h.ends _ hFound
  simp only at hEnd
  obtain ⟨after, -, hMended⟩ := hEnd
  cases hMended with
  | added => exact Or.inl rfl
  | failed hPath => exact Or.inr ⟨_, rfl, hPath⟩
  | stranded => exact Or.inr ⟨_, rfl, rfl⟩
  | passed hOther hReason =>
    rcases hReason with hNot | hNone | hMarker
    · cases hSupports.symm.trans hNot
    · cases hHeader.symm.trans hNone
    · cases (h.awaits p hMem).lacks.symm.trans hMarker

/-- A file that was to be repaired can be read afterwards, and carries the marker unless its repair
has failed. -/
theorem exists_read (hMarks : ∀ p ∈ missing, e.Marks p) (hMem : p ∈ missing) :
    ∃ content, fs'.read p = .ok content ∧
      ((p, (p, .ok .added)) ∈ found ∧ LicenseAudit.carries content e.marker = true ∨
        (∃ x, (p, (p, .error x)) ∈ found ∧ x.path = p) ∧
          LicenseAudit.carries content e.marker = false) := by
  obtain ⟨answer, after, hFound, hAfter, hMended⟩ := h.exists_end hMem
  have hBefore := h.awaits p hMem
  have hRead := hAfter.seat.read hAfter.fits hAfter.file
  rw [hBefore.path] at hRead
  refine ⟨after.content, hRead, ?_⟩
  rcases h.ended hMarks hFound with rfl | ⟨x, rfl, hPath⟩
  · cases hMended with
    | added hHeader => exact Or.inl ⟨hFound, (hMarks p hMem).carries hHeader _⟩
    | passed hOther => exact absurd rfl hOther
  · obtain ⟨hContent, -⟩ := hMended.file_eq (by simp)
    exact Or.inr ⟨⟨x, hFound, hPath⟩, hContent ▸ hBefore.lacks⟩

end Mending

section

variable (h : e.Mending faults fs fs' c.missing site before found)

include h

/-- The repairs account for every file. -/
theorem Mending.accounts (hMarks : ∀ p ∈ c.missing, e.Marks p)
    (hSeparate : (c.missing ++ c.failures.map FileError.path).Pairwise
      fun p q => p.key ≠ q.key) :
    Accounts c (collectFixes c.failures (found.map Prod.snd)) := by
  refine accounts_collectFixes hSeparate ?_ (h.map_fst ▸ h.covers)
  intro a hMem
  obtain ⟨⟨p, answer⟩, hFound, rfl⟩ := List.mem_map.mp hMem
  rcases h.ended hMarks hFound with rfl | ⟨x, rfl, hPath⟩
  · exact Or.inl rfl
  · exact Or.inr ⟨x, rfl, hPath⟩

/-- A file that lacked the marker has failed if its repair has. -/
theorem Mending.mem_failed_iff
    (hSeparate : (c.missing ++ c.failures.map FileError.path).Pairwise
      fun p q => p.key ≠ q.key) (hMem : p ∈ c.missing) :
    p ∈ (collectFixes c.failures (found.map Prod.snd)).failures.map FileError.path ↔
      ∃ x, (p, (p, .error x)) ∈ found ∧ x.path = p := by
  rw [List.mem_map]
  constructor
  · rintro ⟨x, hFailure, rfl⟩
    rcases h.mem_failures_iff.mp hFailure with hEarlier | hFailed
    · -- a file that could not be read did not lack the marker
      exact absurd rfl ((List.pairwise_append.mp hSeparate).2.2 _ hMem _
        (List.mem_map_of_mem hEarlier))
    · exact ⟨x, hFailed, rfl⟩
  · rintro ⟨x, hFailed, rfl⟩
    exact ⟨x, h.mem_failures_iff.mpr (Or.inr hFailed), rfl⟩

end

-- ---------------------------------------------------------------------------
-- Repair and check
-- ---------------------------------------------------------------------------

/-- What a check reports, on a disk that refuses some calls. -/
structure Checked (e : Engine) (refusals : Call → Option IoError) (root : Path)
    (fs : FileSystem) (files : List Path) (c : CheckOutcome) : Prop where
  tree     : fs.WellFormed
  eligible : (((e.eligible root).refusing refusals).run fs).1 = .ok files
  reports  : e.Reports (fun p => fs.reply refusals (.read p)) files c

/-- A check that ends well has found its files and reports what reading them is answered. -/
theorem exists_checked {schedule : List Pool.Event} (hTree : fs.WellFormed)
    (h : (((e.check root schedule).failing faults).run fs).1 = .ok c) :
    ∃ files, e.Checked (Program.causes faults) root fs files c := by
  cases hWalk : (((e.eligible root).failing faults).run fs).1 with
  | error failure =>
    rw [check_failing_of_walk_error hWalk] at h
    cases h
  | ok files =>
    have hFiles := hWalk
    rw [eligible_failing] at hFiles
    obtain ⟨c', hRun, hReports⟩ :=
      exists_check_failing (eligible_differ hTree hFiles) hWalk schedule
    rw [hRun] at h
    obtain rfl := Except.ok.inj h
    exact ⟨files, hTree, hFiles, hReports⟩

namespace Checked

variable {refusals : Call → Option IoError} (h : e.Checked refusals root fs files c)

include h

theorem separate : (c.missing ++ c.failures.map FileError.path).Pairwise
    fun p q => p.key ≠ q.key :=
  h.reports.differ (fun _ _ => path_of_verdict) (eligible_differ h.tree h.eligible)

theorem mem_missing_iff : p ∈ c.missing ↔ p ∈ files ∧ ∃ content,
    fs.reply refusals (.read p) = .ok content ∧ carries content e.marker = false := by
  rw [h.reports.missing]
  refine and_congr_right fun _ => ⟨exists_content, ?_⟩
  rintro ⟨content, hReply, hLacks⟩
  simp [verdict, hReply, hLacks]

end Checked

section

variable (h : e.Mending faults fs fs' c.missing site before found)
  (hBefore : e.Checked (Program.causes faults) root fs files c)
  (hAfter : e.Checked (Program.causes faults) root fs' files' c')

include h hBefore

/-- After the repairs the files that were eligible are eligible still, and besides them only
temporary files that were left. -/
theorem Mending.exists_eligible (hTree' : fs'.WellFormed) :
    ∃ files', (((e.eligible root).refusing (Program.causes faults)).run fs').1 = .ok files' ∧
      Wider (fs'.Fresh (e.Strayed faults fs fs' found)) files files' := by
  have hWalk := hBefore.eligible
  rw [Program.run_refusing (eligible_readOnly e root)] at hWalk ⊢
  exact walk_grows (h.grown.grows hBefore.tree hTree' (Program.causes faults)) hWalk

include hAfter

/-- What lacks the marker afterwards lacked it before, if every temporary file that was left carries
it. -/
theorem Mending.mem_missing_of_lacks (hCandid : Candid (Program.causes faults))
    (hWider : Wider (fs'.Fresh (e.Strayed faults fs fs' found)) files files')
    (hStrays : ∀ l content mode, e.Strayed faults fs fs' found l →
      fs'.lookup? l = some (.file content mode) → carries content e.marker = true)
    (hLacks : p ∈ c'.missing) : p ∈ c.missing := by
  by_contra hOther
  obtain ⟨hFile', content, hReply, hNone⟩ := hAfter.mem_missing_iff.mp hLacks
  -- the file stands at its seat
  have hUnrefused := FileSystem.unrefused_of_reply hReply
  have hSeen := hCandid.seen p hUnrefused
  obtain ⟨hFound', hApart'⟩ := eligible_found hAfter.tree hAfter.eligible
  obtain ⟨dir, n, mode, hSeat, hFits, hThere⟩ := FileSystem.seat_of_read hAfter.tree
    (FileSystem.read_of_reply hReply) fun st hStatus => (hFound' p hFile').2 st
      ((FileSystem.reply_of_unrefused hSeen).trans hStatus)
  have hOld : ¬ e.Strayed faults fs fs' found (n :: dir) := by
    intro hStray
    cases (hStrays _ content mode hStray hThere).symm.trans hNone
  have hFile : p ∈ files := by
    refine (hWider.2 p hFile').resolve_right ?_
    rintro ⟨dir', n', hSeat', hStray⟩
    obtain ⟨rfl, rfl⟩ := hSeat.unique hSeat'
    exact hOld hStray
  -- no header was put into it
  have hPlaces : ∀ q, (q, (q, .ok .added)) ∈ found → fs.locate false q ≠ .ok (n :: dir) := by
    intro q hFound hPlace
    obtain ⟨l, content', mode', header, hFind, -⟩ := h.find_eq hFound
    obtain rfl : l = n :: dir :=
      Except.ok.inj ((FileSystem.find_eq_ok_iff.mp hFind).1.symm.trans hPlace)
    obtain ⟨dir', n', hSeatQ, -, hSame⟩ := FileSystem.seat_of_find hBefore.tree hFind
    obtain ⟨rfl, rfl⟩ := List.cons.inj hSame
    have hMem := h.mem_missing hFound
    have hSymm : Std.Symm fs'.Apart := ⟨fun _ _ h => h.symm⟩
    have hpq : p ≠ q := by
      rintro rfl
      exact hOther hMem
    exact (hApart'.forall hFile' (hWider.1 (hBefore.mem_missing_iff.mp hMem).1) hpq).placed _ _
      hSeat (hSeatQ.keeps h.grown.keeps.ways)
  have hSame := (h.lookup?_cases hPlaces).resolve_right hOld
  have hRead : fs.read p = .ok content :=
    (hSeat.keeps h.grown.keeps_back.ways).read hFits (hSame ▸ hThere)
  exact hOther (hBefore.mem_missing_iff.mpr
    ⟨hFile, content, (FileSystem.reply_of_unrefused hUnrefused).trans hRead, hNone⟩)

/-- A check after the repairs finds the files that have failed. -/
theorem Mending.missing_eq (hCandid : Candid (Program.causes faults))
    (hMarks : ∀ p ∈ c.missing, e.Marks p)
    (hWider : Wider (fs'.Fresh (e.Strayed faults fs fs' found)) files files')
    (hStrays : ∀ l content mode, e.Strayed faults fs fs' found l →
      fs'.lookup? l = some (.file content mode) → carries content e.marker = true) :
    c'.missing = c.missing.filter fun p =>
      p ∈ (collectFixes c.failures (found.map Prod.snd)).failures.map FileError.path := by
  refine eq_of_increasing hAfter.reports.increasing (hBefore.reports.increasing.filter _)
    fun p => ?_
  rw [List.mem_filter, decide_eq_true_iff]
  have hThen : p ∈ c.missing → (p ∈ c'.missing ↔
      p ∈ (collectFixes c.failures (found.map Prod.snd)).failures.map FileError.path) := by
    intro hMem
    obtain ⟨hFile, content, hReply, -⟩ := hBefore.mem_missing_iff.mp hMem
    obtain ⟨content', hRead, hEnd⟩ := h.exists_read hMarks hMem
    have hReply' : fs'.reply (Program.causes faults) (.read p) = .ok content' :=
      (FileSystem.reply_of_unrefused (FileSystem.unrefused_of_reply hReply)).trans hRead
    rw [h.mem_failed_iff hBefore.separate hMem]
    rcases hEnd with ⟨hAdded, hCarries⟩ | ⟨hFailed, hLacks⟩
    · refine iff_of_false (fun hMem' => ?_) ?_
      · obtain ⟨-, content, hAgain, hLacks⟩ := hAfter.mem_missing_iff.mp hMem'
        obtain rfl := Except.ok.inj (hReply'.symm.trans hAgain)
        cases hCarries.symm.trans hLacks
      · rintro ⟨x, hFailed, -⟩
        cases h.answer_unique hAdded hFailed
    · exact iff_of_true (hAfter.mem_missing_iff.mpr ⟨hWider.1 hFile, content', hReply', hLacks⟩)
        hFailed
  constructor
  · intro hMem'
    have hMem := h.mem_missing_of_lacks hBefore hAfter hCandid hWider hStrays hMem'
    exact ⟨hMem, (hThen hMem).mp hMem'⟩
  · rintro ⟨hMem, hFailed⟩
    exact (hThen hMem).mpr hFailed

/-- If nothing has failed, every file can be read in a check after the repairs. -/
theorem Mending.failures_eq_nil
    (hWider : Wider (fs'.Fresh (e.Strayed faults fs fs' found)) files files')
    (hSuccess : (collectFixes c.failures (found.map Prod.snd)).failures = []) :
    c'.failures = [] := by
  have hNone : ∀ x, x ∉ (collectFixes c.failures (found.map Prod.snd)).failures := by
    intro x
    rw [hSuccess]
    exact List.not_mem_nil
  refine List.eq_nil_iff_forall_not_mem.mpr fun x hMem => ?_
  obtain ⟨p, hFile', hFails'⟩ := (hAfter.reports.failures x).mp hMem
  have hFile : p ∈ files := by
    refine (hWider.2 p hFile').resolve_right ?_
    rintro ⟨dir, n, -, q, cause, hFailed, -⟩
    exact hNone (.write q cause) (h.mem_failures_iff.mpr (Or.inr hFailed))
  cases hReply : fs.reply (Program.causes faults) (.read p) with
  | error cause =>
    have hFailure : FileError.read p cause ∈ c.failures := (hBefore.reports.failures _).mpr
      ⟨p, hFile, verdict_eq_error_iff.mpr ⟨cause, hReply, rfl⟩⟩
    exact hNone _ (h.mem_failures_iff.mpr (Or.inl hFailure))
  | ok content =>
    obtain ⟨content', hRead'⟩ := h.grown.exists_read (FileSystem.read_of_reply hReply)
    have hReply' : fs'.reply (Program.causes faults) (.read p) = .ok content' :=
      (FileSystem.reply_of_unrefused (FileSystem.unrefused_of_reply hReply)).trans hRead'
    obtain ⟨cause, hAgain, -⟩ := verdict_eq_error_iff.mp hFails'
    cases hReply'.symm.trans hAgain

end

/-- A tree with one file, which lacks the letter. -/
def oneFile : FileSystem := ⟨[(["a.rs"], .file [0x41] 0o644)], []⟩

theorem wellFormed_oneFile : oneFile.WellFormed := .of_entries (by decide) (by decide)

theorem eligible_oneFile :
    ((letterEngine.eligible ⟨"."⟩).run oneFile).1 = .ok [⟨"./a.rs"⟩] := by
  have hList : oneFile.list ⟨"."⟩ = .ok [("a.rs", .file)] := by
    have hFind : oneFile.find true ⟨"."⟩ = .ok ([], .directory 0o755) := rfl
    rw [FileSystem.list, hFind]
    simp [oneFile, FileSystem.children, bind, Except.bind, Entry.status]
  have hStatus : oneFile.linkStatus ⟨"."⟩ = .ok ⟨.directory, 0o755⟩ := rfl
  have hEnters : (letterEngine.selection.descends ⟨"."⟩).run oneFile = (true, oneFile) := rfl
  have hIncludes : ((letterEngine.selection.includes ⟨"./a.rs"⟩).run oneFile).1 = true := by
    decide
  have hJoin : (⟨"."⟩ : Path).join ⟨"a.rs"⟩ = ⟨"./a.rs"⟩ := by decide
  have hInside : ((Walk.inside letterEngine.selection pathLimit ⟨"."⟩).run oneFile).1 =
      .ok [⟨"./a.rs"⟩] := by
    rw [show pathLimit = 4095 + 1 from rfl, Walk.inside]
    simp [hList, Walk.visitAll, hJoin, Walk.report_run, hIncludes]
  simp [eligible, walk, Walk.fromRoot, hStatus, hEnters, hInside]

end LicenseAudit.Engine
