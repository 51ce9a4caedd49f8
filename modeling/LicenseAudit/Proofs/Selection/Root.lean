import LicenseAudit.Proofs.Selection.Reach

/-!
# The root of a walk

The root of a walk is a directory that the selection has a say in: it can be kept out of, and it is
no file. Both hold of a root that is a directory itself. A root that is a link to a directory is
entered whatever the directory filter says, and offered to the file filter.

* `Walk.AgreesBeside` — two filters say the same of all paths but one;
* `Walk.GuardsRoot` — a walk keeps out of a rejected root and never reports the root.

## Results

* `inside_congr` — a walk inside a directory does not ask the file filter about the directory.
* `answer_fromRoot_link` — a walk from a link reports the link, and then what is inside.
* `guardsRoot_iff` — all walks from a root guard it exactly if the root is no link.
-/

namespace LicenseAudit

open FileSystem

namespace Walk

variable {fs : FileSystem} {refusals : Call → Option IoError} {root : Path}

/-- Two filters say the same of every path but one. -/
def AgreesBeside (reply : (c : Call) → c.Reply) (p : Path) (files files' : Filter) : Prop :=
  ∀ q, q ≠ p → (files'.accepts q).answer reply = (files.accepts q).answer reply

/-- A walk keeps out of a root that the directory filter rejects, finds only what is below its
root, and does not ask the file filter about the root. -/
structure GuardsRoot (selection : Selection) (fs : FileSystem) (refusals : Call → Option IoError)
    (root : Path) : Prop where
  pruned    : ¬ selection.Enters fs refusals root →
    ((walk root selection).refusing refusals).run fs = (.ok [], fs)
  below     : ∀ found, (((walk root selection).refusing refusals).run fs).1 = .ok found →
    ∀ p ∈ found, ∃ n names, p = root.below (n :: names) ∧ ∀ m ∈ n :: names, ProperName m
  unoffered : ∀ files, AgreesBeside (fs.reply refusals) root selection.files files →
    ((walk root { selection with files }).refusing refusals).run fs =
      ((walk root selection).refusing refusals).run fs

-- ---------------------------------------------------------------------------
-- What the file filter is asked
-- ---------------------------------------------------------------------------

/-- Visits that answer alike at each entry answer alike. -/
theorem answer_visitAll_congr {α : Type} {visit visit' : α → Program Answer}
    {reply : (c : Call) → c.Reply} {entries : List α}
    (h : ∀ entry ∈ entries, (visit' entry).answer reply = (visit entry).answer reply) :
    (visitAll visit' entries).answer reply = (visitAll visit entries).answer reply := by
  induction entries with
  | nil => rfl
  | cons entry rest ih =>
    rw [List.forall_mem_cons] at h
    rw [visitAll, visitAll, Program.answer_bind, Program.answer_bind, h.1]
    cases (visit entry).answer reply with
    | error failure => rfl
    | ok found => simp only [Program.answer_bind, ih h.2]

/-- A walk inside a directory that is not shorter than the root does not ask the file filter about
the root. -/
theorem inside_congr {reply : (c : Call) → c.Reply} (hLists : ListsInOrder reply)
    {selection : Selection} {files : Filter}
    (hFiles : AgreesBeside reply root selection.files files)
    {depth : Nat} {dir : Path} (hSize : root.text.utf8ByteSize ≤ dir.text.utf8ByteSize) :
    (inside { selection with files } depth dir).answer reply =
      (inside selection depth dir).answer reply := by
  induction depth generalizing dir with
  | zero => rfl
  | succ depth ih =>
    rw [inside, inside, Program.answer_bind, Program.answer_bind, Program.answer_list]
    cases hList : reply (.list dir) with
    | error cause => rfl
    | ok entries =>
      refine answer_visitAll_congr fun entry hMem => ?_
      have hLonger := dir.size_join ((hLists dir entries hList).2 entry hMem)
      have hOther : dir.join ⟨entry.1⟩ ≠ root := by
        intro hSame
        rw [hSame] at hLonger
        omega
      refine (answer_entry reply depth _ _).trans ?_
      refine Eq.trans ?_ (answer_entry reply depth _ _).symm
      have hTakes :
          (Selection.includes { selection with files } (dir.join ⟨entry.1⟩)).answer reply =
          (selection.includes (dir.join ⟨entry.1⟩)).answer reply := hFiles _ hOther
      rw [ih (Nat.le_of_lt (Nat.lt_of_le_of_lt hSize hLonger)), hTakes]
      rfl

-- ---------------------------------------------------------------------------
-- Kinds of roots
-- ---------------------------------------------------------------------------

/-- A walk gives the answer that starts from its root. -/
theorem run_walk (root : Path) (selection : Selection) (refusals : Call → Option IoError)
    (fs : FileSystem) :
    ((walk root selection).refusing refusals).run fs =
      (((fromRoot root selection).answer (fs.reply refusals)).mapError
        fun failure => ⟨root, failure.1, failure.2⟩, fs) := by
  rw [Program.run_refusing (walk_surveys root selection).readOnly, walk, Program.answer_bind]
  cases (fromRoot root selection).answer (fs.reply refusals) <;> rfl

/-- A walk from a directory asks the directory filter first. -/
theorem answer_fromRoot_directory {selection : Selection} {reply : (c : Call) → c.Reply}
    {s : Status} (hStatus : reply (.linkStatus root) = .ok s) (hKind : s.kind = .directory) :
    (fromRoot root selection).answer reply =
      if (selection.descends root).answer reply then (inside selection pathLimit root).answer reply
      else .ok [] := by
  rw [fromRoot, Program.answer_bind, Program.answer_linkStatus, hStatus]
  simp only [hKind, Program.answer_bind]
  split_ifs <;> rfl

/-- A walk from a link to a directory reports the link, if the file filter accepts it, and then
what is inside. The directory filter is not asked. -/
theorem answer_fromRoot_link {selection : Selection} {reply : (c : Call) → c.Reply}
    {s target : Status} (hStatus : reply (.linkStatus root) = .ok s) (hKind : s.kind = .link)
    (hTarget : reply (.status root) = .ok target) (hDirectory : target.kind = .directory) :
    (fromRoot root selection).answer reply =
      ((inside selection pathLimit root).answer reply).map
        fun found => (if (selection.includes root).answer reply then [root] else []) ++ found := by
  rw [fromRoot, Program.answer_bind, Program.answer_linkStatus, hStatus]
  simp only [hKind, Program.answer_bind, Program.answer_status, hTarget, answer_report, hDirectory,
    if_true]
  cases (inside selection pathLimit root).answer reply <;> rfl

/-- A walk from a file reports the file. -/
theorem answer_fromRoot_file {selection : Selection} {reply : (c : Call) → c.Reply}
    {s : Status} (hStatus : reply (.linkStatus root) = .ok s) (hKind : s.kind = .file) :
    (fromRoot root selection).answer reply =
      .ok (if (selection.includes root).answer reply then [root] else []) := by
  rw [fromRoot, Program.answer_bind, Program.answer_linkStatus, hStatus, ← answer_report]
  simp only [hKind, Program.answer_bind]
  rfl

/-- A walk from a link to a file reports the link. -/
theorem answer_fromRoot_link_file {selection : Selection} {reply : (c : Call) → c.Reply}
    {s target : Status} (hStatus : reply (.linkStatus root) = .ok s) (hKind : s.kind = .link)
    (hTarget : reply (.status root) = .ok target) (hFile : target.kind ≠ .directory) :
    (fromRoot root selection).answer reply =
      .ok (if (selection.includes root).answer reply then [root] else []) := by
  rw [fromRoot, Program.answer_bind, Program.answer_linkStatus, hStatus, ← answer_report]
  simp only [hKind, Program.answer_bind, Program.answer_status, hTarget, hFile, if_false]
  rfl

/-- A directory that is no link is guarded. -/
theorem guardsRoot_of_directory (hTree : fs.WellFormed) (selection : Selection) {s : Status}
    (hStatus : fs.reply refusals (.linkStatus root) = .ok s) (hKind : s.kind = .directory) :
    GuardsRoot selection fs refusals root := by
  have hLists := listsInOrder_reply hTree refusals
  refine ⟨fun hRejected => ?_, fun found hFound p hMem => ?_, fun files hFiles => ?_⟩
  · rw [run_walk, answer_fromRoot_directory hStatus hKind,
      if_neg (mt Selection.enters_iff.mpr hRejected)]
    rfl
  · rw [run_walk, answer_fromRoot_directory hStatus hKind] at hFound
    split_ifs at hFound with hEnters
    · cases hInside : (inside selection pathLimit root).answer (fs.reply refusals) with
      | error failure =>
        rw [hInside] at hFound
        cases hFound
      | ok below =>
        rw [hInside] at hFound
        cases hFound
        exact ((inside_ordered hLists hInside).1 p hMem).2
    · cases hFound
      exact absurd hMem List.not_mem_nil
  · rw [run_walk, run_walk, answer_fromRoot_directory hStatus hKind,
      answer_fromRoot_directory hStatus hKind, inside_congr hLists hFiles (Nat.le_refl _)]
    rfl

/-- The selection that rejects every directory and accepts every file. -/
def nothingInside : Selection := ⟨[.only fun _ => false], []⟩

theorem not_enters_nothingInside (fs : FileSystem) (refusals : Call → Option IoError) (p : Path) :
    ¬ nothingInside.Enters fs refusals p := by
  rw [Selection.enters_iff, Selection.descends, Filter.answer_accepts_iff]
  intro h
  have hRule := h _ (List.mem_singleton_self _)
  rw [Rule.answer_only_iff] at hRule
  cases hRule

/-- A link to a directory is not guarded: it is reported although it is rejected. -/
theorem not_guardsRoot_of_link {s target : Status}
    (hStatus : fs.reply refusals (.linkStatus root) = .ok s) (hKind : s.kind = .link)
    (hTarget : fs.reply refusals (.status root) = .ok target)
    (hDirectory : target.kind = .directory) :
    ¬ GuardsRoot nothingInside fs refusals root := by
  intro h
  have hEmpty := h.pruned (not_enters_nothingInside fs refusals root)
  rw [run_walk, answer_fromRoot_link hStatus hKind hTarget hDirectory] at hEmpty
  cases hInside : (inside nothingInside pathLimit root).answer (fs.reply refusals) with
  | error failure =>
    rw [hInside] at hEmpty
    cases hEmpty
  | ok found =>
    rw [hInside] at hEmpty
    cases hEmpty

/-- What leads to a directory is a directory or a link. -/
theorem kind_of_directory {s target : Status} (hStatus : fs.linkStatus root = .ok s)
    (hTarget : fs.status root = .ok target) (hDirectory : target.kind = .directory) :
    s.kind = .directory ∨ s.kind = .link := by
  obtain ⟨l, e, hLocate, hEntry, rfl⟩ := exists_place hStatus
  cases e with
  | directory mode => exact Or.inl rfl
  | link path => exact Or.inr rfl
  | file content mode =>
    have hSame : fs.find true root = .ok (l, .file content mode) :=
      find_eq_ok_iff.mpr ⟨locate_true_of_false hLocate hEntry rfl, hEntry⟩
    rw [status, hSame] at hTarget
    cases hTarget
    cases hDirectory

/-- **Which roots are guarded.** Let a root name a directory, itself or as a link, and let some
calls be refused. Whatever the selection, a walk keeps out of the root if the directory filter
rejects it, finds only what is below it and does not ask the file filter about it — exactly if the
root is no link. -/
theorem guardsRoot_iff (hTree : fs.WellFormed) {s target : Status}
    (hStatus : fs.reply refusals (.linkStatus root) = .ok s)
    (hTarget : fs.reply refusals (.status root) = .ok target)
    (hDirectory : target.kind = .directory) :
    (∀ selection, GuardsRoot selection fs refusals root) ↔ s.kind ≠ .link := by
  constructor
  · intro hGuards hLink
    exact not_guardsRoot_of_link hStatus hLink hTarget hDirectory (hGuards nothingInside)
  · intro hNoLink selection
    rcases kind_of_directory (linkStatus_of_reply hStatus) (status_of_reply hTarget) hDirectory with
      hKind | hKind
    · exact guardsRoot_of_directory hTree selection hStatus hKind
    · exact absurd hKind hNoLink

/-- A walk from a directory keeps out of it, even if another directory is closed. -/
theorem guardsRoot_outside_closed_directory :
    guardedTree.reply closedLibrary (.linkStatus ⟨"."⟩) = .ok ⟨.directory, 0o755⟩ ∧
      ∀ selection, GuardsRoot selection guardedTree closedLibrary ⟨"."⟩ := by
  have hStatus : guardedTree.reply closedLibrary (.linkStatus ⟨"."⟩) = .ok ⟨.directory, 0o755⟩ :=
    rfl
  exact ⟨hStatus, (guardsRoot_iff wellFormed_guardedTree hStatus rfl rfl).mpr (by decide)⟩

/-- A tree with a directory and a link to it. -/
def linkedTree : FileSystem :=
  ⟨[(["lib"], .directory 0o755), (["a.go", "lib"], .file [0x61] 0o644),
    (["vendor"], .link ⟨"lib"⟩)], []⟩

/-- The selection that keeps out of vendored code. -/
def outsideVendored : Selection :=
  ⟨[.unnamed (.ofLiterals "directory" ["vendor"])], []⟩

/-- A rejected link to a directory is reported as a file, and entered. -/
theorem walk_enters_rejected_link :
    linkedTree.status ⟨"vendor"⟩ = .ok ⟨.directory, 0o755⟩ ∧
      ¬ outsideVendored.Enters linkedTree (fun _ => none) ⟨"vendor"⟩ ∧
      ((walk ⟨"vendor"⟩ outsideVendored).run linkedTree).1 =
        .ok [⟨"vendor"⟩, ⟨"vendor/a.go"⟩] := by
  decide +kernel

end Walk

end LicenseAudit
