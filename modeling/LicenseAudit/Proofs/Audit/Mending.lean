import LicenseAudit.Proofs.Audit.Classes
import LicenseAudit.Proofs.FileSystem.Grown
import LicenseAudit.Proofs.Pool.Replacing
import LicenseAudit.Proofs.Program.Remnant

/-!
# Repairs of several files

A repair of a tree replaces every file that lacks the marker, several at a time, on a disk that may
fail any call. Each repair works at the site of its file. So each ends as it would alone, and
nothing changes at any other place.

* `Engine.Takes` — a file that takes a header;
* `Engine.Treated` — the ways in which the repair of such a file ends at its site;
* `Engine.Mended` — the ways in which the repair of one file among several ends;
* `Engine.Awaits` — a file that lacks the marker, at its site;
* `Engine.Mending` — what is left of a tree after the repairs of a pool;
* `Engine.Stray` — a temporary file that a repair has left.

## Results

* `meets_fixFile`, `meets_repair` — the repair of a file ends in one of these ways.
* `exists_sites` — every file that lacks the marker is at a site of its own.
* `exists_mending` — the repairs of a pool end, and each in one of these ways.
* `Mending.lookup?_cases` — what stands at a place afterwards.
* `exists_fixAll` — a repair of a tree whose walk ends well ends with the repairs of a pool.
-/

namespace LicenseAudit.Engine

open Text (encode)

variable {e : Engine} {faults : Call → Option Fault} {fs fs' : FileSystem} {root p : Path}
  {files missing : List Path}

-- ---------------------------------------------------------------------------
-- Collected answers
-- ---------------------------------------------------------------------------

/-- The file of an answer, if the file was repaired. -/
def added? : Path × Except FileError FixOutcome → Option Path
  | (p, .ok .added) => some p
  | _ => none

/-- The failure of an answer, if the repair failed. -/
def refused? : Path × Except FileError FixOutcome → Option FileError
  | (_, .error x) => some x
  | _ => none

theorem added?_eq_some_iff {answer : Path × Except FileError FixOutcome} {p : Path} :
    added? answer = some p ↔ answer = (p, .ok .added) := by
  obtain ⟨q, outcome⟩ := answer
  rcases outcome with x | outcome
  · simp [added?]
  · cases outcome <;> simp [added?]

theorem refused?_eq_some_iff {answer : Path × Except FileError FixOutcome} {x : FileError} :
    refused? answer = some x ↔ answer.2 = .error x := by
  obtain ⟨q, outcome⟩ := answer
  cases outcome <;> simp [refused?]

theorem collectFixes_eq (failures : List FileError)
    (answers : List (Path × Except FileError FixOutcome)) :
    collectFixes failures answers =
      ⟨Path.sortedSet (answers.filterMap added?),
        FileError.sorted (failures ++ answers.filterMap refused?)⟩ := by
  rw [collectFixes]
  congr 2
  · congr 1
    funext ⟨p, outcome⟩
    rcases outcome with x | outcome
    · rfl
    · cases outcome <;> rfl
  · congr 2
    funext ⟨p, outcome⟩
    cases outcome <;> rfl

/-- The repaired files of different answers are different. -/
theorem differ_added {answers : List (Path × Except FileError FixOutcome)}
    (hDiffer : answers.Pairwise fun a b => a.1.key ≠ b.1.key) :
    (answers.filterMap added?).Pairwise fun p q => p.key ≠ q.key := by
  refine List.pairwise_filterMap.mpr (hDiffer.imp ?_)
  intro a b hKeys p hp q hq
  rw [added?_eq_some_iff] at hp hq
  rwa [hp, hq] at hKeys

theorem mem_fixed_iff {failures : List FileError}
    {answers : List (Path × Except FileError FixOutcome)}
    (hDiffer : answers.Pairwise fun a b => a.1.key ≠ b.1.key) {p : Path} :
    p ∈ (collectFixes failures answers).fixed ↔ (p, .ok .added) ∈ answers := by
  rw [collectFixes_eq, Path.mem_sortedSet (differ_added hDiffer), List.mem_filterMap]
  constructor
  · rintro ⟨answer, hMem, hAdded⟩
    exact added?_eq_some_iff.mp hAdded ▸ hMem
  · intro hMem
    exact ⟨_, hMem, rfl⟩

theorem mem_failures_iff {failures : List FileError}
    {answers : List (Path × Except FileError FixOutcome)} {x : FileError} :
    x ∈ (collectFixes failures answers).failures ↔
      x ∈ failures ∨ ∃ a ∈ answers, a.2 = .error x := by
  rw [collectFixes_eq, FileError.sorted, List.mem_mergeSort, List.mem_append,
    List.mem_filterMap]
  simp only [refused?_eq_some_iff]

-- ---------------------------------------------------------------------------
-- Files that take a header
-- ---------------------------------------------------------------------------

/-- The file is of a kind that takes a header, and this is its header. -/
structure Takes (e : Engine) (p : Path) (header : String) : Prop where
  supports : e.headers.supports p = true
  header   : e.headers.headerFor? p = some header

theorem Takes.unique {header header' : String} (h : e.Takes p header) (h' : e.Takes p header') :
    header = header' :=
  Option.some.inj (h.header.symm.trans h'.header)

/-- No call is made for a file without a header. -/
theorem fixFile_eq_pure (h : e.headers.supports p = false ∨ e.headers.headerFor? p = none) :
    e.fixFile p = pure (.ok .unsupported) := by
  unfold fixFile
  rcases h with hSupports | hHeader
  · rw [hSupports]
    rfl
  · rw [hHeader]
    split <;> rfl

theorem exists_takes (h : ¬ (e.headers.supports p = false ∨ e.headers.headerFor? p = none)) :
    ∃ header, e.Takes p header := by
  obtain ⟨hSupports, hHeader⟩ := not_or.mp h
  obtain ⟨header, hSome⟩ := Option.ne_none_iff_exists'.mp hHeader
  exact ⟨header, by simpa using hSupports, hSome⟩

theorem Takes.not_unsupported {header : String} (h : e.Takes p header) :
    ¬ (e.headers.supports p = false ∨ e.headers.headerFor? p = none) := by
  rw [h.supports, h.header]
  simp

/-- The ways in which the repair of a file that takes a header ends at its site: the file cannot be
read, it carries the marker, or it is replaced, and the replacement succeeds or fails. -/
inductive Treated (e : Engine) (s : Site e.tag) (faults : Call → Option Fault) (header : String)
    (before : Cells) : Except FileError FixOutcome → Cells → Prop where
  | unread {cause : IoError} : Treated e s faults header before (.error (.read s.path cause)) before
  | compliant (hCarries : carries before.content e.marker = true) :
      Treated e s faults header before (.ok .alreadyCompliant) before
  | added {after : Cells} (hLacks : carries before.content e.marker = false)
      (hLeft : s.Left faults (insertHeader before.content (encode header.toList)) before (.ok ())
        after) : Treated e s faults header before (.ok .added) after
  | unwritten {cause : IoError} {after : Cells} (hLacks : carries before.content e.marker = false)
      (hLeft : s.Left faults (insertHeader before.content (encode header.toList)) before
        (.error cause) after) :
      Treated e s faults header before (.error (.write s.path cause)) after

/-- **The repair of a file that takes a header ends in one of these ways**, whichever of its calls
fail and whatever the temporary file has been before. -/
theorem meets_fixFile {s : Site e.tag} {header : String} (hTakes : e.Takes s.path header)
    (before : Cells) :
    s.Meets (e.Treated s faults header before) ((e.fixFile s.path).failing faults) before := by
  simp only [fixFile, hTakes.supports, hTakes.header, Bool.not_true, Bool.false_eq_true, if_false,
    Program.failing_bind]
  refine Site.Meets.bind (Site.meets_failing .read rfl (fun _ reply after hAnswers => ?_)
    fun fault _ => ⟨_, rfl, .unread⟩)
  cases hAnswers with
  | read =>
    cases hMarker : carries before.content e.marker with
    | true =>
      simp only [hMarker, if_true]
      exact .compliant hMarker
    | false =>
      simp only [hMarker, Bool.false_eq_true, if_false]
      rw [Program.failing_bind]
      refine Site.Meets.bind ((Site.meets_replace faults before _).mono ?_)
      rintro (cause | done) after hLeft
      · exact .unwritten hMarker hLeft
      · exact .added hMarker hLeft

-- ---------------------------------------------------------------------------
-- One file
-- ---------------------------------------------------------------------------

/-- The ways in which the repair of a file ends: the header is added; the file is passed over
because it takes no header or carries the marker; or the repair has failed. Only in the first case
is the file another one than before. A repair that has failed may leave its temporary file. -/
inductive Mended (e : Engine) (faults : Call → Option Fault) (p : Path) (before : Cells) :
    Path × Except FileError FixOutcome → Cells → Prop where
  | added {header : String} (hHeader : e.headers.headerFor? p = some header) :
      Mended e faults p before (p, .ok .added)
        ⟨insertHeader before.content (encode header.toList), before.mode, none⟩
  | passed {outcome : FixOutcome} (hOther : outcome ≠ .added)
      (hReason : e.headers.supports p = false ∨ e.headers.headerFor? p = none ∨
        carries before.content e.marker = true) :
      Mended e faults p before (p, .ok outcome) before
  | failed {x : FileError} (hPath : x.path = p) : Mended e faults p before (p, .error x) before
  | stranded {header : String} {cause : IoError} {part : Bytes} {mode : Nat}
      (hHeader : e.headers.headerFor? p = some header)
      (hRemoval : faults (.remove (p.temporarySibling e.tag)) ≠ none)
      (hRemnant : Remnant faults (p.temporarySibling e.tag)
        (insertHeader before.content (encode header.toList)) part) :
      Mended e faults p before (p, .error (.write p cause))
        { before with spare := some (part, mode) }

variable {before after : Cells} {answer : Path × Except FileError FixOutcome}

theorem Mended.path_eq (h : e.Mended faults p before answer after) : answer.1 = p := by
  cases h <;> rfl

/-- A failure names its file. -/
theorem Mended.error_path {x : FileError} (h : e.Mended faults p before answer after)
    (hError : answer.2 = .error x) : x.path = p := by
  cases h with
  | added | passed => cases hError
  | failed hPath => exact Except.error.inj hError ▸ hPath
  | stranded =>
    obtain rfl := Except.error.inj hError
    rfl

/-- A file without an added header is as it was. -/
theorem Mended.file_eq (h : e.Mended faults p before answer after)
    (hOther : answer ≠ (p, .ok .added)) :
    after.content = before.content ∧ after.mode = before.mode := by
  cases h with
  | added => exact absurd rfl hOther
  | passed | failed | stranded => exact ⟨rfl, rfl⟩

/-- **The repair of a file ends in one of these ways**, whichever of its calls fail. -/
theorem meets_repair {s : Site e.tag} (hPath : s.path = p) (hVacant : before.spare = none)
    (hAdmits : Program.Admits faults p) :
    s.Meets (e.Mended faults p before) ((e.repair p).failing faults) before := by
  subst hPath
  rw [repair, Program.failing_bind]
  refine Site.Meets.bind ?_
  by_cases hNone : e.headers.supports s.path = false ∨ e.headers.headerFor? s.path = none
  · rw [fixFile_eq_pure hNone]
    exact .passed (by decide) (hNone.imp_right Or.inl)
  · obtain ⟨header, hTakes⟩ := exists_takes hNone
    refine (meets_fixFile hTakes before).mono fun answer after hTreated => ?_
    cases hTreated with
    | unread => exact .failed rfl
    | compliant hCarries => exact .passed (by decide) (Or.inr (Or.inr hCarries))
    | added hLacks hLeft =>
      cases hLeft with
      | replaced hMode =>
        rw [hMode hAdmits]
        exact .added hTakes.header
    | unwritten hLacks hLeft =>
      cases hLeft with
      | spared => exact .failed rfl
      | cleared =>
        rw [← hVacant]
        exact .failed rfl
      | stranded hRemoval hRemnant => exact .stranded hTakes.header hRemoval hRemnant

-- ---------------------------------------------------------------------------
-- The sites of the files to repair
-- ---------------------------------------------------------------------------

/-- The file is at its site, lacks the marker and has no temporary file beside it. -/
structure Awaits (e : Engine) (fs : FileSystem) (s : Site e.tag) (before : Cells) (p : Path) :
    Prop where
  path   : s.path = p
  shows  : s.Shows fs before
  vacant : before.spare = none
  lacks  : carries before.content e.marker = false

/-- The sites of files that are apart from each other share no place. -/
theorem Awaits.disjoint {p q : Path} {s t : Site e.tag} {before before' : Cells}
    (hp : e.Awaits fs s before p) (hq : e.Awaits fs t before' q) (hApart : fs.Apart p q) :
    ∀ l, s.Owns l → ¬ t.Owns l := by
  refine hp.shows.disjoint hq.shows ?_ hp.vacant hq.vacant
  intro hSame
  obtain ⟨hName, hDir⟩ := List.cons.inj hSame
  refine hApart.placed s.dir s.name (hp.path ▸ hp.shows.seat) ?_
  rw [hName, hDir]
  exact hq.path ▸ hq.shows.seat

/-- A file that lacks the marker, and is not told to be a link, is at some site. -/
theorem exists_awaits (hTree : fs.WellFormed) {refusals : Call → Option IoError}
    (hSeen : ∀ p, refusals (.read p) = none → refusals (.linkStatus p) = none)
    (hNoLink : ∀ st, fs.reply refusals (.linkStatus p) = .ok st → st.kind ≠ .link)
    (hVacant : ∀ st, fs.linkStatus (p.temporarySibling e.tag) ≠ .ok st)
    (hLacks : e.verdict p (fs.reply refusals (.read p)) = .ok false) :
    ∃ (dir : Location) (n : String) (before : Cells), e.Awaits fs ⟨p, dir, n⟩ before p := by
  obtain ⟨content, hReply, hMarker⟩ := exists_content hLacks
  -- what may be read may be looked at, and is no link
  have hStatus := hSeen p (FileSystem.unrefused_of_reply hReply)
  have hPlain : ∀ st, fs.linkStatus p = .ok st → st.kind ≠ .link :=
    fun st hThere => hNoLink st ((FileSystem.reply_of_unrefused hStatus).trans hThere)
  obtain ⟨dir, n, mode, hSeat, hFits, hFile⟩ :=
    FileSystem.seat_of_read hTree (FileSystem.read_of_reply hReply) hPlain
  exact ⟨dir, n, ⟨content, mode, none⟩, rfl, Site.shows_of_vacant hSeat hFits hFile hVacant, rfl,
    hMarker⟩

/-- Every file that lacks the marker is at a site of its own. -/
theorem exists_sites (hTree : fs.WellFormed) {refusals : Call → Option IoError}
    (hSeen : ∀ p, refusals (.read p) = none → refusals (.linkStatus p) = none)
    (hFiles : (((e.eligible root).refusing refusals).run fs).1 = .ok files) {c : CheckOutcome}
    (hReports : e.Reports (fun p => fs.reply refusals (.read p)) files c)
    (hVacant : ∀ p ∈ c.missing, ∀ st, fs.linkStatus (p.temporarySibling e.tag) ≠ .ok st) :
    ∃ (site : Path → Site e.tag) (before : Path → Cells), (∀ p, (site p).path = p) ∧
      (∀ p ∈ c.missing, e.Awaits fs (site p) (before p) p) ∧ c.missing.Pairwise fs.Apart := by
  obtain ⟨hFound, hApart⟩ := eligible_found hTree hFiles
  have hFile : ∀ p ∈ c.missing, p ∈ files ∧
      e.verdict p (fs.reply refusals (.read p)) = .ok false :=
    fun p hMem => (hReports.missing p).mp hMem
  have hSites : ∀ p ∈ c.missing, ∃ (dir : Location) (n : String) (before : Cells),
      e.Awaits fs ⟨p, dir, n⟩ before p := by
    intro p hMem
    obtain ⟨hEligible, hLacks⟩ := hFile p hMem
    exact exists_awaits hTree hSeen (hFound p hEligible).2 (hVacant p hMem) hLacks
  have hCells : Nonempty Cells := ⟨⟨[], 0, none⟩⟩
  choose! dir name before hAwaits using hSites
  refine ⟨fun p => ⟨p, dir p, name p⟩, before, fun _ => rfl, hAwaits, ?_⟩
  have hSymm : Std.Symm fs.Apart := ⟨fun _ _ h => h.symm⟩
  refine hReports.increasing.imp_of_mem ?_
  intro p q hp hq hBelow
  exact hApart.forall (hFile p hp).1 (hFile q hq).1 fun hEq => ne_of_lt hBelow (by rw [hEq])

-- ---------------------------------------------------------------------------
-- The repairs of a pool
-- ---------------------------------------------------------------------------

/-- What is left after the repairs: every repair has ended, and nothing has changed outside the
sites. -/
structure Mending (e : Engine) (faults : Call → Option Fault) (fs fs' : FileSystem)
    (missing : List Path) (site : Path → Site e.tag) (before : Path → Cells)
    (found : List (Path × (Path × Except FileError FixOutcome))) : Prop where
  awaits : ∀ p ∈ missing, e.Awaits fs (site p) (before p) p
  apart  : missing.Pairwise fs.Apart
  covers : (found.map Prod.fst).Perm missing
  ends   : ∀ x ∈ found, ∃ after, (site x.1).Shows fs' after ∧
    e.Mended faults x.1 (before x.1) x.2 after
  alters : FileSystem.Alters (fun l => ∃ p ∈ missing, (site p).Owns l) fs fs'

variable {site : Path → Site e.tag} {before : Path → Cells}
  {found : List (Path × (Path × Except FileError FixOutcome))}

/-- **The repairs of a pool end**, whichever of their calls fail, and leave such a state. -/
theorem exists_mending (hCandid : Candid (Program.causes faults))
    (hAwaits : ∀ p ∈ missing, e.Awaits fs (site p) (before p) p)
    (hApart : missing.Pairwise fs.Apart) (schedule : List Pool.Event) :
    ∃ found fs', ((Pool.run schedule e.jobs missing fun p => some <$> e.repair p).failing
        faults).run fs = (.results (found.map Prod.snd), fs') ∧
      e.Mending faults fs fs' missing site before found := by
  have hMeets : ∀ p ∈ missing, (site p).Meets (e.Mended faults p (before p))
      ((e.repair p).failing faults) (before p) := by
    intro p hMem
    exact meets_repair (hAwaits p hMem).path (hAwaits p hMem).vacant
      (Program.admits_of_candid hCandid p)
  have hSites : missing.Pairwise fun p q => ∀ l, (site p).Owns l → ¬ (site q).Owns l := by
    refine hApart.imp_of_mem ?_
    intro p q hp hq hpq
    exact (hAwaits p hp).disjoint (hAwaits q hq) hpq
  have hShows : ∀ p ∈ missing, (site p).Shows fs (before p) :=
    fun p hMem => (hAwaits p hMem).shows
  obtain ⟨other, hPool⟩ := Pool.exists_run_failing (fun p => some <$> e.repair p) faults schedule
    e.jobs missing fs
  obtain ⟨found, fs', hRun, hCovers, hEnds, hAlters⟩ :=
    Pool.run_replacing other e.jobs hSites hShows hMeets
  simp only [Program.failing_map] at hPool
  exact ⟨found, fs', hPool.trans hRun, hAwaits, hApart, hCovers, hEnds, hAlters⟩

namespace Mending

variable (h : e.Mending faults fs fs' missing site before found)

include h

/-- The end of the repair of one file. -/
theorem exists_end (hMem : p ∈ missing) :
    ∃ answer after, (p, answer) ∈ found ∧ (site p).Shows fs' after ∧
      e.Mended faults p (before p) answer after := by
  obtain ⟨⟨q, answer⟩, hFound, rfl⟩ := List.mem_map.mp (h.covers.mem_iff.mpr hMem)
  obtain ⟨after, hAfter, hMended⟩ := h.ends _ hFound
  exact ⟨answer, after, hFound, hAfter, hMended⟩

theorem mem_missing {answer : Path × Except FileError FixOutcome} (hFound : (p, answer) ∈ found) :
    p ∈ missing :=
  h.covers.mem_iff.mp (List.mem_map_of_mem hFound)

/-- A file has one answer. -/
theorem answer_unique {a b : Path × Except FileError FixOutcome} (ha : (p, a) ∈ found)
    (hb : (p, b) ∈ found) : a = b := by
  have hNodup : (found.map Prod.fst).Nodup := by
    refine h.covers.nodup_iff.mpr (h.apart.imp ?_)
    rintro p q hpq rfl
    exact hpq.spelled rfl
  exact congrArg Prod.snd (List.inj_on_of_nodup_map hNodup ha hb rfl)

/-- The answers name the files. -/
theorem map_fst : (found.map Prod.snd).map Prod.fst = found.map Prod.fst := by
  rw [List.map_map]
  refine List.map_congr_left fun x hMem => ?_
  obtain ⟨after, -, hMended⟩ := h.ends x hMem
  exact hMended.path_eq

/-- The answers are about different files. -/
theorem differ : (found.map Prod.snd).Pairwise fun a b => a.1.key ≠ b.1.key := by
  rw [← List.pairwise_map (f := Prod.fst) (R := fun p q : Path => p.key ≠ q.key), h.map_fst]
  exact h.covers.symm.pairwise (h.apart.imp fun hpq => hpq.spelled) fun hpq => hpq.symm

/-- The fixed files are those with an added header. -/
theorem mem_fixed_iff {failures : List FileError} :
    p ∈ (collectFixes failures (found.map Prod.snd)).fixed ↔ (p, (p, .ok .added)) ∈ found := by
  rw [Engine.mem_fixed_iff h.differ, List.mem_map]
  constructor
  · rintro ⟨⟨q, answer⟩, hFound, hAdded⟩
    obtain rfl : answer = (p, .ok .added) := hAdded
    obtain ⟨after, -, hMended⟩ := h.ends _ hFound
    obtain rfl : p = q := hMended.path_eq
    exact hFound
  · intro hFound
    exact ⟨_, hFound, rfl⟩

/-- The failures are earlier ones and those of repairs. -/
theorem mem_failures_iff {failures : List FileError} {x : FileError} :
    x ∈ (collectFixes failures (found.map Prod.snd)).failures ↔
      x ∈ failures ∨ (x.path, (x.path, .error x)) ∈ found := by
  rw [Engine.mem_failures_iff]
  refine or_congr_right ⟨?_, fun hFound => ⟨_, List.mem_map_of_mem hFound, rfl⟩⟩
  rintro ⟨a, hAnswer, hError⟩
  obtain ⟨⟨p, q, outcome⟩, hFound, rfl⟩ := List.mem_map.mp hAnswer
  obtain rfl : outcome = .error x := hError
  obtain ⟨after, -, hMended⟩ := h.ends _ hFound
  obtain rfl : q = p := hMended.path_eq
  obtain rfl : x.path = q := hMended.error_path rfl
  exact hFound

/-- The file of an added header stands where it stood, with the header in it. -/
theorem find_eq (hFound : (p, (p, .ok .added)) ∈ found) : ∃ l content mode header,
    fs.find false p = .ok (l, .file content mode) ∧ e.headers.headerFor? p = some header ∧
    fs'.find false p = .ok (l, .file (insertHeader content (encode header.toList)) mode) := by
  obtain ⟨after, hAfter, hMended⟩ := h.ends _ hFound
  have hBefore := h.awaits p (h.mem_missing hFound)
  have hFind : fs.find false (site p).path =
      .ok ((site p).place, .file (before p).content (before p).mode) :=
    hBefore.shows.seat.find hBefore.shows.fits (fun hFollow => by cases hFollow)
      hBefore.shows.file
  have hFind' : fs'.find false (site p).path =
      .ok ((site p).place, .file after.content after.mode) :=
    hAfter.seat.find hAfter.fits (fun hFollow => by cases hFollow) hAfter.file
  rw [hBefore.path] at hFind hFind'
  cases hMended with
  | added hHeader => exact ⟨_, _, _, _, hFind, hHeader, hFind'⟩
  | passed hOther => exact absurd rfl hOther

/-- What reading a file that was to be repaired gives. -/
theorem read_eq (hMem : p ∈ missing) : fs.read p = .ok (before p).content := by
  have hBefore := h.awaits p hMem
  have hRead := hBefore.shows.seat.read hBefore.shows.fits hBefore.shows.file
  rwa [hBefore.path] at hRead

end Mending

-- ---------------------------------------------------------------------------
-- Places
-- ---------------------------------------------------------------------------

/-- The temporary file of a repair was left at the place, because it could not be removed. Nothing
stood there before. It holds the new content of the file, or the beginning at which its write
stopped short. -/
structure Stray (e : Engine) (faults : Call → Option Fault) (fs fs' : FileSystem) (p : Path)
    (l : Location) : Prop where
  vacant  : fs.lookup? l = none
  place   : fs.locate false (p.temporarySibling e.tag) = .ok l
  removal : faults (.remove (p.temporarySibling e.tag)) ≠ none
  remnant : ∃ old header part mode, fs.read p = .ok old ∧
    e.headers.headerFor? p = some header ∧
    Remnant faults (p.temporarySibling e.tag) (insertHeader old (encode header.toList)) part ∧
    fs'.lookup? l = some (.file part mode)

theorem Stray.not_removable {l : Location} (h : e.Stray faults fs fs' p l) :
    ¬ Removable faults (p.temporarySibling e.tag) := by
  obtain ⟨old, header, part, mode, -, -, hRemnant, -⟩ := h.remnant
  exact hRemnant.not_removable h.removal

/-- The temporary file of a repair that has failed was left at the place. -/
def Strayed (e : Engine) (faults : Call → Option Fault) (fs fs' : FileSystem)
    (found : List (Path × (Path × Except FileError FixOutcome))) (l : Location) : Prop :=
  ∃ p cause, (p, (p, .error (.write p cause))) ∈ found ∧ e.Stray faults fs fs' p l

/-- Where no header was added, everything is as it was or a temporary file was left. -/
theorem Mending.lookup?_cases (h : e.Mending faults fs fs' missing site before found) {l : Location}
    (hOther : ∀ p, (p, (p, .ok .added)) ∈ found → fs.locate false p ≠ .ok l) :
    fs'.lookup? l = fs.lookup? l ∨ e.Strayed faults fs fs' found l := by
  by_cases hSite : ∃ p ∈ missing, (site p).Owns l
  · obtain ⟨p, hMem, hOwns⟩ := hSite
    obtain ⟨answer, after, hFound, hAfter, hMended⟩ := h.exists_end hMem
    have hBefore := h.awaits p hMem
    rcases hOwns with rfl | ⟨hFits, rfl⟩
    · left
      have hNotAdded : answer ≠ (p, .ok .added) := by
        rintro rfl
        have hPlace : fs.locate false (site p).path = .ok (site p).place :=
          hBefore.shows.seat.locate_own hBefore.shows.fits
        rw [hBefore.path] at hPlace
        exact hOther p hFound hPlace
      obtain ⟨hContent, hMode⟩ := hMended.file_eq hNotAdded
      rw [hAfter.file, hBefore.shows.file, hContent, hMode]
    · have hNone : fs.lookup? (site p).spare = none := by
        rw [hBefore.shows.spare hFits, hBefore.vacant]
        rfl
      have hThere := hAfter.spare hFits
      cases hMended with
      | added =>
        left
        rw [hThere, hNone]
        rfl
      | passed | failed =>
        left
        rw [hThere, hNone, hBefore.vacant]
        rfl
      | stranded hHeader hRemoval hRemnant =>
        have hPlace := hBefore.shows.spareSeat.locate_own hFits
        rw [Site.temporary, hBefore.path] at hPlace
        exact Or.inr ⟨p, _, hFound, hNone, hPlace, hRemoval, _, _, _, _, h.read_eq hMem, hHeader,
          hRemnant, hThere⟩
  · exact Or.inl (h.alters.outside l hSite)

/-- The repairs add temporary files that were left, and otherwise change nothing but file
contents. -/
theorem Mending.grown (h : e.Mending faults fs fs' missing site before found) :
    FileSystem.Grown (e.Strayed faults fs fs' found) fs fs' where
  start := h.alters.keeps.start
  shapes := by
    intro l hOld
    by_cases hAdded : ∃ p, (p, (p, .ok .added)) ∈ found ∧ fs.locate false p = .ok l
    · obtain ⟨p, hFound, hPlace⟩ := hAdded
      obtain ⟨l', content, mode, header, hFind, -, hFind'⟩ := h.find_eq hFound
      obtain ⟨hLocate, hFile⟩ := FileSystem.find_eq_ok_iff.mp hFind
      obtain rfl : l' = l := Except.ok.inj (hLocate.symm.trans hPlace)
      rw [hFile, (FileSystem.find_eq_ok_iff.mp hFind').2]
      rfl
    · have hOther : ∀ p, (p, (p, .ok .added)) ∈ found → fs.locate false p ≠ .ok l :=
        fun p hFound hPlace => hAdded ⟨p, hFound, hPlace⟩
      rw [(h.lookup?_cases hOther).resolve_right hOld]
  vacant := fun _ ⟨_, _, _, hStray⟩ => hStray.vacant
  file := by
    rintro l ⟨p, cause, -, hStray⟩
    obtain ⟨old, header, part, mode, -, -, -, hThere⟩ := hStray.remnant
    exact ⟨part, mode, hThere⟩

/-- Unless a temporary file is left, the repairs change nothing but file contents. -/
theorem Mending.alike (h : e.Mending faults fs fs' missing site before found)
    (hTidy : ∀ p ∈ missing, ∀ l, ¬ e.Stray faults fs fs' p l) : fs.Alike fs' where
  start := h.grown.start
  shapes := by
    refine fun l => h.grown.shapes l ?_
    rintro ⟨p, cause, hFound, hStray⟩
    exact hTidy p (h.mem_missing hFound) l hStray

-- ---------------------------------------------------------------------------
-- Repairs of a tree
-- ---------------------------------------------------------------------------

/-- A repair of a tree whose walk ends well ends with the repairs of a pool, those of the files that
a check reports. -/
theorem exists_fixAll (hTree : fs.WellFormed) (hCandid : Candid (Program.causes faults))
    (hFiles : (((e.eligible root).failing faults).run fs).1 = .ok files) {c : CheckOutcome}
    (hReports : e.Reports (fun p => fs.reply (Program.causes faults) (.read p)) files c)
    (hVacant : ∀ p ∈ c.missing, ∀ st, fs.linkStatus (p.temporarySibling e.tag) ≠ .ok st)
    (first second : List Pool.Event) :
    ∃ site before found fs', ((e.fixAll root first second).failing faults).run fs =
        (.ok (collectFixes c.failures (found.map Prod.snd)), fs') ∧
      e.Mending faults fs fs' c.missing site before found := by
  have hWalk := hFiles
  rw [eligible_failing] at hWalk
  obtain ⟨c', hCheck, hReports'⟩ := exists_check_failing (eligible_differ hTree hWalk) hFiles first
  obtain rfl : c' = c := hReports'.unique hReports
  obtain ⟨site, before, -, hAwaits, hApart⟩ :=
    exists_sites hTree hCandid.seen hWalk hReports hVacant
  obtain ⟨found, fs', hRun, hMending⟩ := exists_mending hCandid hAwaits hApart second
  refine ⟨site, before, found, fs', ?_, hMending⟩
  simp only [fixAll, Program.failing_bind, Program.run_bind, hCheck, hRun]
  rfl

end LicenseAudit.Engine
