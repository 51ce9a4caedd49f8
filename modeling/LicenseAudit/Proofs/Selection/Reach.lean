import LicenseAudit.Proofs.FileSystem.Lists
import LicenseAudit.Proofs.Program.Refusal
import LicenseAudit.Proofs.Selection.Walk

/-!
# What a walk reaches

A walk lists the files that can be reached from its root through directories that are really there
and that the selection lets it enter. Which files these are is said here by their names alone,
without following the walk. The disk may refuse calls of its own, such as opening a directory.

* `Selection.Enters`, `Selection.Takes` — what the two filters of a selection accept;
* `Walk.Entered` — every directory from the root down to some names is entered;
* `Walk.Reached` — a file under some names to which entered directories lead.

## Results

* `walk_ordered` — a walk finds accepted paths, in the order of paths.
* `inside_explored` — a walk inside a directory finds what is reached.
* `exists_refused` — a walk inside a directory fails only at a directory that it enters.
* `walk_cases` — a walk explores its root, or fails at the root or at a directory that it enters.
* `walk_reaches` — the same of a whole walk.
-/

namespace LicenseAudit

open FileSystem

-- ---------------------------------------------------------------------------
-- Reached files
-- ---------------------------------------------------------------------------

namespace Selection

/-- The directory filter accepts the path. -/
def Enters (s : Selection) (fs : FileSystem) (refusals : Call → Option IoError) (p : Path) :
    Prop :=
  (((s.descends p).refusing refusals).run fs).1 = true

/-- The file filter accepts the path. -/
def Takes (s : Selection) (fs : FileSystem) (refusals : Call → Option IoError) (p : Path) :
    Prop :=
  (((s.includes p).refusing refusals).run fs).1 = true

instance (s : Selection) (fs : FileSystem) (refusals : Call → Option IoError) (p : Path) :
    Decidable (s.Enters fs refusals p) :=
  inferInstanceAs (Decidable (_ = true))

instance (s : Selection) (fs : FileSystem) (refusals : Call → Option IoError) (p : Path) :
    Decidable (s.Takes fs refusals p) :=
  inferInstanceAs (Decidable (_ = true))

theorem enters_iff {s : Selection} {fs : FileSystem} {refusals : Call → Option IoError}
    {p : Path} :
    s.Enters fs refusals p ↔ (s.descends p).answer (fs.reply refusals) = true := by
  rw [Enters, Program.run_refusing (Walk.descends_surveys s p).readOnly]

theorem takes_iff {s : Selection} {fs : FileSystem} {refusals : Call → Option IoError}
    {p : Path} :
    s.Takes fs refusals p ↔ (s.includes p).answer (fs.reply refusals) = true := by
  rw [Takes, Program.run_refusing (Walk.includes_surveys s p).readOnly]

end Selection

namespace Walk

variable (selection : Selection) (fs : FileSystem) (refusals : Call → Option IoError)

/-- Under each beginning of the names, all of them included, stands a real directory that the
directory filter accepts. -/
def Entered (root : Path) (l : Location) (names : List String) : Prop :=
  ∀ front, front <+: names →
    fs.isDirectory (l.below front) = true ∧ selection.Enters fs refusals (root.below front)

/-- Under the names stands an entry that is no directory and that the file filter accepts, and
every directory from the root down to it is a real one that the directory filter accepts. -/
structure Reached (root : Path) (l : Location) (names : List String) : Prop where
  entry : ∃ e, fs.lookup? (l.below names) = some e ∧ e.isDirectory = false
  taken : selection.Takes fs refusals (root.below names)
  way   : ∀ front, front <+: names → front ≠ names →
    fs.isDirectory (l.below front) = true ∧ selection.Enters fs refusals (root.below front)

variable {selection fs refusals} {root dir : Path} {l : Location} {n : String}
  {names : List String}

theorem entered_nil_iff : Entered selection fs refusals dir l [] ↔
    fs.isDirectory l = true ∧ selection.Enters fs refusals dir := by
  constructor
  · exact fun h => h [] (List.prefix_refl _)
  · intro h front hFront
    rw [List.prefix_nil.mp hFront]
    exact h

theorem entered_cons_iff : Entered selection fs refusals dir l (n :: names) ↔
    (fs.isDirectory l = true ∧ selection.Enters fs refusals dir) ∧
      Entered selection fs refusals (dir.join ⟨n⟩) (n :: l) names := by
  constructor
  · intro h
    refine ⟨h [] List.nil_prefix, fun front hFront => ?_⟩
    have hNext := h (n :: front) ((List.cons_prefix_cons).mpr ⟨rfl, hFront⟩)
    rwa [Location.below_cons, Path.below_cons] at hNext
  · rintro ⟨hHere, hBelow⟩ front hFront
    rcases List.prefix_cons_iff.mp hFront with rfl | ⟨rest, rfl, hRest⟩
    · exact hHere
    · rw [Location.below_cons, Path.below_cons]
      exact hBelow rest hRest

/-- What is reached through an entered directory is reached from each entry of it. -/
theorem reached_cons_iff (hDir : fs.isDirectory l = true)
    (hEnters : selection.Enters fs refusals dir) :
    Reached selection fs refusals dir l (n :: names) ↔
      Reached selection fs refusals (dir.join ⟨n⟩) (n :: l) names := by
  constructor
  · rintro ⟨hEntry, hTaken, hWay⟩
    rw [Location.below_cons] at hEntry
    refine ⟨hEntry, hTaken, fun front hFront hOther => ?_⟩
    have hNext := hWay (n :: front) ((List.cons_prefix_cons).mpr ⟨rfl, hFront⟩)
      fun hEq => hOther (List.cons.inj hEq).2
    rwa [Location.below_cons, Path.below_cons] at hNext
  · rintro ⟨hEntry, hTaken, hWay⟩
    rw [← Location.below_cons] at hEntry
    refine ⟨hEntry, hTaken, fun front hFront hOther => ?_⟩
    rcases List.prefix_cons_iff.mp hFront with rfl | ⟨rest, rfl, hRest⟩
    · exact ⟨hDir, hEnters⟩
    · rw [Location.below_cons, Path.below_cons]
      exact hWay rest hRest fun hEq => hOther (congrArg (n :: ·) hEq)

/-- A directory is not reached as a file. -/
theorem not_reached_nil (hDir : fs.isDirectory l = true) :
    ¬ Reached selection fs refusals dir l [] := by
  rintro ⟨⟨e, hEntry, hPlain⟩, -, -⟩
  rw [Location.below_nil] at hEntry
  obtain ⟨mode, hThere⟩ := exists_directory hDir
  obtain rfl := Option.some.inj (hEntry.symm.trans hThere)
  cases hPlain

end Walk

namespace Walk

variable {selection : Selection} {fs : FileSystem} {refusals : Call → Option IoError}
  {root dir : Path} {l : Location}

-- ---------------------------------------------------------------------------
-- The answers of a walk
-- ---------------------------------------------------------------------------

/-- A visit of all entries fails only at one of them. -/
theorem exists_failed_visit {α : Type} {visit : α → Program Answer}
    {reply : (c : Call) → c.Reply} {entries : List α} {failure : Path × IoError}
    (h : (visitAll visit entries).answer reply = .error failure) :
    ∃ entry ∈ entries, (visit entry).answer reply = .error failure := by
  induction entries with
  | nil => cases h
  | cons entry rest ih =>
    rw [visitAll, Program.answer_bind] at h
    cases hFirst : (visit entry).answer reply with
    | error e =>
      rw [hFirst] at h
      cases h
      exact ⟨entry, List.mem_cons_self .., hFirst⟩
    | ok part =>
      simp only [hFirst, Program.answer_bind] at h
      cases hRest : (visitAll visit rest).answer reply with
      | error e =>
        rw [hRest] at h
        cases h
        obtain ⟨later, hMem, hFailed⟩ := ih hRest
        exact ⟨later, List.mem_cons_of_mem _ hMem, hFailed⟩
      | ok more =>
        rw [hRest] at h
        cases h

-- ---------------------------------------------------------------------------
-- The order of a walk
-- ---------------------------------------------------------------------------

/-- Every listing names its entries by proper names, in the order of the names. -/
def ListsInOrder (reply : (c : Call) → c.Reply) : Prop :=
  ∀ dir entries, reply (.list dir) = .ok entries →
    (entries.Pairwise fun entry other => entry.1 < other.1) ∧
      ∀ entry ∈ entries, ProperName entry.1

theorem listsInOrder_reply (hTree : fs.WellFormed) (refusals : Call → Option IoError) :
    ListsInOrder (fs.reply refusals) := by
  intro dir entries hList
  obtain ⟨l, -, -, rfl⟩ := opens_of_list (list_of_reply hList)
  refine ⟨List.pairwise_map.mpr (increasing_children hTree l), fun entry hMem => ?_⟩
  obtain ⟨⟨n, e⟩, hChild, rfl⟩ := List.mem_map.mp hMem
  exact hTree.names (mem_children.mp hChild)

/-- What is found at an entry is the entry itself or below it, in the order of paths, if that holds
of what is found inside. -/
theorem entry_ordered {reply : (c : Call) → c.Reply} {depth : Nat} {p : Path} {kind : EntryKind}
    {found : List Path}
    (hInside : ∀ {below}, (inside selection depth p).answer reply = .ok below →
      (∀ q ∈ below, (selection.includes q).answer reply = true ∧
        ∃ n names, q = p.below (n :: names) ∧ ∀ m ∈ n :: names, ProperName m) ∧
      below.Pairwise fun q r => q.key < r.key)
    (h : (if kind = .directory then
        if (selection.descends p).answer reply then (inside selection depth p).answer reply
        else .ok []
      else .ok (if (selection.includes p).answer reply then [p] else [])) = .ok found) :
    (∀ q ∈ found, (selection.includes q).answer reply = true ∧
      ∃ names, q = p.below names ∧ ∀ m ∈ names, ProperName m) ∧
    found.Pairwise fun q r => q.key < r.key := by
  split_ifs at h with hKind hEnters hTakes
  · obtain ⟨hFound, hOrder⟩ := hInside h
    refine ⟨fun q hMem => ?_, hOrder⟩
    obtain ⟨hTakes, n, names, hBelow⟩ := hFound q hMem
    exact ⟨hTakes, n :: names, hBelow⟩
  · cases h
    exact ⟨fun q hMem => absurd hMem List.not_mem_nil, List.Pairwise.nil⟩
  · cases h
    refine ⟨fun q hMem => ?_, List.pairwise_singleton _ _⟩
    rw [List.mem_singleton.mp hMem]
    exact ⟨hTakes, [], rfl, fun m hNone => absurd hNone List.not_mem_nil⟩
  · cases h
    exact ⟨fun q hMem => absurd hMem List.not_mem_nil, List.Pairwise.nil⟩

/-- A walk inside a directory finds accepted paths below the directory, in the order of paths. -/
theorem inside_ordered {reply : (c : Call) → c.Reply} (hLists : ListsInOrder reply) {depth : Nat}
    {found : List Path} (h : (inside selection depth dir).answer reply = .ok found) :
    (∀ p ∈ found, (selection.includes p).answer reply = true ∧
      ∃ n names, p = dir.below (n :: names) ∧ ∀ m ∈ n :: names, ProperName m) ∧
    found.Pairwise fun p q => p.key < q.key := by
  induction depth generalizing dir found with
  | zero => cases h
  | succ depth ih =>
    rw [inside, Program.answer_bind, Program.answer_list] at h
    cases hList : reply (.list dir) with
    | error cause =>
      rw [hList] at h
      cases h
    | ok entries =>
      rw [hList] at h
      obtain ⟨hIncreasing, hNames⟩ := hLists dir entries hList
      obtain ⟨part, hVisits, rfl⟩ := exists_parts h
      have hPart : ∀ entry ∈ entries,
          (∀ p ∈ part entry, (selection.includes p).answer reply = true ∧
            ∃ names, p = dir.below (entry.1 :: names) ∧ ∀ m ∈ entry.1 :: names, ProperName m) ∧
          (part entry).Pairwise fun p q => p.key < q.key := by
        intro entry hMem
        have hVisit := (answer_entry reply depth _ _).symm.trans (hVisits entry hMem)
        obtain ⟨hFound, hOrder⟩ := entry_ordered ih hVisit
        refine ⟨fun p hp => ?_, hOrder⟩
        obtain ⟨hTakes, names, hBelow, hProper⟩ := hFound p hp
        exact ⟨hTakes, names, hBelow, List.forall_mem_cons.mpr ⟨hNames entry hMem, hProper⟩⟩
      refine ⟨fun p hp => ?_, ?_⟩
      · obtain ⟨entry, hMem, hFound⟩ := List.mem_flatMap.mp hp
        obtain ⟨hTakes, names, hBelow⟩ := (hPart entry hMem).1 p hFound
        exact ⟨hTakes, entry.1, names, hBelow⟩
      · refine List.pairwise_flatMap.mpr ⟨fun entry hMem => (hPart entry hMem).2, ?_⟩
        refine hIncreasing.imp_of_mem ?_
        intro entry other hMem hMem' hBefore p hp q hq
        -- the first names of the two paths decide
        obtain ⟨-, names, rfl, hProper⟩ := (hPart entry hMem).1 p hp
        obtain ⟨-, names', rfl, hProper'⟩ := (hPart other hMem').1 q hq
        rw [Path.key_below_lt_iff hProper hProper', List.map_cons, List.map_cons,
          List.cons_lt_cons_iff]
        exact Or.inl (Path.nameKey_lt hBefore)

/-- A report names one path, if that path is accepted. -/
theorem report_ordered (selection : Selection) (reply : (c : Call) → c.Reply) (p : Path) :
    (∀ q ∈ (report selection p).answer reply, q = p ∧ (selection.includes q).answer reply = true) ∧
      ((report selection p).answer reply).Pairwise fun q r => q.key < r.key := by
  rw [answer_report]
  split_ifs with hTakes
  · refine ⟨fun q hMem => ?_, List.pairwise_singleton _ _⟩
    rw [List.mem_singleton.mp hMem]
    exact ⟨rfl, hTakes⟩
  · exact ⟨fun q hMem => absurd hMem List.not_mem_nil, List.Pairwise.nil⟩

/-- A walk finds accepted paths, in the order of paths. -/
theorem fromRoot_ordered {reply : (c : Call) → c.Reply} (hLists : ListsInOrder reply)
    {found : List Path} (h : (fromRoot root selection).answer reply = .ok found) :
    (∀ p ∈ found, (selection.includes p).answer reply = true) ∧
      found.Pairwise fun p q => p.key < q.key := by
  have hReport := report_ordered selection reply root
  rw [fromRoot, Program.answer_bind, Program.answer_linkStatus] at h
  cases hStatus : reply (.linkStatus root) with
  | error cause =>
    rw [hStatus] at h
    cases h
  | ok s =>
    simp only [hStatus] at h
    cases hKind : s.kind with
    | directory =>
      simp only [hKind, Program.answer_bind] at h
      split_ifs at h
      · obtain ⟨hFound, hOrder⟩ := inside_ordered hLists h
        exact ⟨fun p hMem => (hFound p hMem).1, hOrder⟩
      · cases h
        exact ⟨fun p hMem => absurd hMem List.not_mem_nil, List.Pairwise.nil⟩
    | file =>
      simp only [hKind, Program.answer_bind, Program.answer_pure] at h
      cases h
      exact ⟨fun p hMem => (hReport.1 p hMem).2, hReport.2⟩
    | link =>
      simp only [hKind, Program.answer_bind, Program.answer_status] at h
      cases hTarget : reply (.status root) with
      | error cause =>
        rw [hTarget] at h
        cases h
      | ok target =>
        simp only [hTarget, Program.answer_bind] at h
        split_ifs at h
        · cases hInside : (inside selection pathLimit root).answer reply with
          | error failure =>
            simp only [Program.answer_bind, hInside] at h
            cases h
          | ok below =>
            simp only [Program.answer_bind, hInside] at h
            cases h
            obtain ⟨hFound, hOrder⟩ := inside_ordered hLists hInside
            refine ⟨fun p hMem => ?_, List.pairwise_append.mpr ⟨hReport.2, hOrder, ?_⟩⟩
            · rcases List.mem_append.mp hMem with hSelf | hBelow
              · exact (hReport.1 p hSelf).2
              · exact (hFound p hBelow).1
            · -- the root comes before everything below it
              intro p hSelf q hBelow
              obtain ⟨-, n, names, rfl, hProper⟩ := hFound q hBelow
              rw [(hReport.1 p hSelf).1]
              exact Path.key_lt_below hProper
        · cases h
          exact ⟨fun p hMem => (hReport.1 p hMem).2, hReport.2⟩

-- ---------------------------------------------------------------------------
-- Explored entries
-- ---------------------------------------------------------------------------

variable (selection fs refusals) in
/-- The found paths are those of the files that are reached from an entry, and every directory that
is entered on the way can be listed. -/
structure Explored (dir : Path) (l : Location) (found : List Path) : Prop where
  listed  : ∀ names, Entered selection fs refusals dir l names →
    ∃ entries, fs.reply refusals (.list (dir.below names)) = .ok entries
  mem_iff : ∀ p, p ∈ found ↔
    ∃ names, p = dir.below names ∧ Reached selection fs refusals dir l names

/-- From an entry that is no directory the entry itself is reached, if it is accepted. -/
theorem explored_file {e : Entry} (hEntry : fs.lookup? l = some e)
    (hPlain : e.isDirectory = false) :
    Explored selection fs refusals dir l
      (if (selection.includes dir).answer (fs.reply refusals) then [dir] else []) := by
  have hNoDir : fs.isDirectory l = false := by rw [isDirectory_eq hEntry, hPlain]
  have hClosed : ∀ {names}, ¬ Entered selection fs refusals dir l names := by
    intro names hEntered
    have hHere := (hEntered [] List.nil_prefix).1
    rw [Location.below_nil, hNoDir] at hHere
    cases hHere
  have hReached : ∀ names, Reached selection fs refusals dir l names ↔
      names = [] ∧ selection.Takes fs refusals dir := by
    intro names
    constructor
    · intro h
      cases names with
      | nil => exact ⟨rfl, h.taken⟩
      | cons n rest =>
        have hHere := (h.way [] List.nil_prefix (List.cons_ne_nil n rest).symm).1
        rw [Location.below_nil, hNoDir] at hHere
        cases hHere
    · rintro ⟨rfl, hTakes⟩
      exact ⟨⟨e, hEntry, hPlain⟩, hTakes, fun front hFront hOther =>
        absurd (List.prefix_nil.mp hFront) hOther⟩
  refine ⟨fun names hEntered => absurd hEntered hClosed, fun p => ?_⟩
  simp only [hReached, Selection.takes_iff]
  split_ifs with hTakes <;> simp [hTakes]

/-- From a directory that is not entered nothing is reached. -/
theorem explored_rejected (hDir : fs.isDirectory l = true)
    (hNot : ¬ selection.Enters fs refusals dir) :
    Explored selection fs refusals dir l [] where
  listed := fun names hEntered => absurd (hEntered [] List.nil_prefix).2 hNot
  mem_iff := by
    intro p
    refine iff_of_false List.not_mem_nil ?_
    rintro ⟨names, -, hReached⟩
    cases names with
    | nil => exact not_reached_nil hDir hReached
    | cons n rest =>
      exact hNot (hReached.way [] List.nil_prefix (List.cons_ne_nil n rest).symm).2

/-- From a directory that is entered what is reached is reached from its entries. -/
theorem explored_entered (hTree : fs.WellFormed) (hDir : fs.isDirectory l = true)
    (hEnters : selection.Enters fs refusals dir)
    (hListed : ∃ entries, fs.reply refusals (.list dir) = .ok entries)
    {part : String × EntryKind → List Path}
    (hParts : ∀ n e, fs.lookup? (n :: l) = some e →
      Explored selection fs refusals (dir.join ⟨n⟩) (n :: l) (part (n, e.status.kind))) :
    Explored selection fs refusals dir l
      (((fs.children l).map fun c => (c.1, c.2.status.kind)).flatMap part) := by
  have hChild : ∀ {n e}, (n, e) ∈ fs.children l ↔ fs.lookup? (n :: l) = some e :=
    hTree.mem_children_iff
  refine ⟨fun names hEntered => ?_, fun p => ?_⟩
  · cases names with
    | nil => exact hListed
    | cons n rest =>
      have hBelow := (entered_cons_iff.mp hEntered).2
      obtain ⟨mode, hEntry⟩ := exists_directory (hBelow [] List.nil_prefix).1
      exact (hParts n _ hEntry).listed rest hBelow
  · simp only [List.mem_flatMap, List.mem_map]
    constructor
    · rintro ⟨-, ⟨⟨n, e⟩, hMem, rfl⟩, hFound⟩
      obtain ⟨rest, rfl, hReached⟩ := ((hParts n e (hChild.mp hMem)).mem_iff p).mp hFound
      exact ⟨n :: rest, rfl, (reached_cons_iff hDir hEnters).mpr hReached⟩
    · rintro ⟨names, rfl, hReached⟩
      cases names with
      | nil => exact absurd hReached (not_reached_nil hDir)
      | cons n rest =>
        have hBelow := (reached_cons_iff hDir hEnters).mp hReached
        obtain ⟨e, hEntry⟩ : ∃ e, fs.lookup? (n :: l) = some e := by
          cases rest with
          | nil => exact hBelow.entry.imp fun e h => h.1
          | cons m more =>
            have hHere := hBelow.way [] List.nil_prefix (List.cons_ne_nil m more).symm
            exact (exists_directory hHere.1).imp' _ fun mode h => h
        refine ⟨_, ⟨(n, e), hChild.mpr hEntry, rfl⟩, ?_⟩
        exact ((hParts n e hEntry).mem_iff _).mpr ⟨rest, rfl, hBelow⟩

-- ---------------------------------------------------------------------------
-- Inside a directory
-- ---------------------------------------------------------------------------

/-- What is said to stand in a directory stands in the place that its path leads to. -/
theorem opens_of_reply (hPlace : ∀ l', fs.locate true dir = .ok l' → l' = l)
    {entries : List (String × EntryKind)}
    (h : fs.reply refusals (.list dir) = .ok entries) :
    fs.Opens dir l ∧ entries = (fs.children l).map fun c => (c.1, c.2.status.kind) := by
  obtain ⟨l', hOpens, hLocate, hEntries⟩ := opens_of_list (list_of_reply h)
  obtain rfl := hPlace l' hLocate
  exact ⟨hOpens, hEntries⟩

/-- The path of a directory in an open directory leads to its place. -/
theorem place_of_entry (hTree : fs.WellFormed) (hOpens : fs.Opens dir l) {n : String}
    (hDir : fs.isDirectory (n :: l) = true) :
    ∀ l', fs.locate true (dir.join ⟨n⟩) = .ok l' → l' = n :: l := by
  intro l' hLocate
  obtain ⟨mode, hEntry⟩ := exists_directory hDir
  have hMem := (hTree.lookup?_eq_some_iff (List.cons_ne_nil n l)).mp hEntry
  exact (hOpens.seat (hTree.names hMem)).eq_of_locate hEntry rfl hLocate

/-- A walk inside a directory finds what is reached. -/
theorem inside_explored (hTree : fs.WellFormed) {depth : Nat} {found : List Path}
    (hPlace : ∀ l', fs.locate true dir = .ok l' → l' = l) (hDir : fs.isDirectory l = true)
    (hEnters : selection.Enters fs refusals dir)
    (h : (inside selection depth dir).answer (fs.reply refusals) = .ok found) :
    Explored selection fs refusals dir l found := by
  induction depth generalizing dir l found with
  | zero => cases h
  | succ depth ih =>
    rw [inside, Program.answer_bind, Program.answer_list] at h
    cases hList : fs.reply refusals (.list dir) with
    | error cause =>
      rw [hList] at h
      cases h
    | ok entries =>
      rw [hList] at h
      obtain ⟨hOpens, rfl⟩ := opens_of_reply hPlace hList
      obtain ⟨part, hVisits, rfl⟩ := exists_parts h
      refine explored_entered hTree hDir hEnters ⟨_, hList⟩ fun n e hEntry => ?_
      have hMem : (n, e.status.kind) ∈ (fs.children l).map fun c => (c.1, c.2.status.kind) := by
        refine List.mem_map.mpr ⟨(n, e), mem_children.mpr ?_, rfl⟩
        exact (hTree.lookup?_eq_some_iff (List.cons_ne_nil n l)).mp hEntry
      have hVisit := (answer_entry _ depth _ _).symm.trans (hVisits _ hMem)
      generalize part (n, e.status.kind) = here at hVisit ⊢
      simp only [Entry.kind_eq_directory_iff] at hVisit
      cases hKind : e.isDirectory with
      | false =>
        simp only [hKind, Bool.false_eq_true, if_false] at hVisit
        cases hVisit
        exact explored_file hEntry hKind
      | true =>
        have hBelow : fs.isDirectory (n :: l) = true := by
          rw [isDirectory_eq hEntry, hKind]
        simp only [hKind, if_true] at hVisit
        split_ifs at hVisit with hDescends
        · exact ih (place_of_entry hTree hOpens hBelow) hBelow
            (Selection.enters_iff.mpr hDescends) hVisit
        · cases hVisit
          exact explored_rejected hBelow fun hEnter => hDescends (Selection.enters_iff.mp hEnter)

/-- A walk inside a directory fails only at a directory that it enters and that cannot be
listed. -/
theorem exists_refused (hTree : fs.WellFormed) {depth : Nat} {failure : Path × IoError}
    (hPlace : ∀ l', fs.locate true dir = .ok l' → l' = l) (hDir : fs.isDirectory l = true)
    (hEnters : selection.Enters fs refusals dir)
    (hDepth : pathLimit ≤ depth + dir.text.utf8ByteSize)
    (h : (inside selection depth dir).answer (fs.reply refusals) = .error failure) :
    ∃ names, Entered selection fs refusals dir l names ∧
      ∃ cause, fs.reply refusals (.list (dir.below names)) = .error cause := by
  have hHere : Entered selection fs refusals dir l [] := entered_nil_iff.mpr ⟨hDir, hEnters⟩
  induction depth generalizing dir l with
  | zero =>
    obtain ⟨cause, hList⟩ : ∃ cause, fs.list dir = .error cause := exists_list_error (by omega)
    exact ⟨[], hHere, exists_reply_list_error hList⟩
  | succ depth ih =>
    rw [inside, Program.answer_bind, Program.answer_list] at h
    cases hList : fs.reply refusals (.list dir) with
    | error cause => exact ⟨[], hHere, cause, hList⟩
    | ok entries =>
      rw [hList] at h
      obtain ⟨hOpens, rfl⟩ := opens_of_reply hPlace hList
      obtain ⟨entry, hMem, hVisit⟩ := exists_failed_visit h
      obtain ⟨⟨n, e⟩, hChild, rfl⟩ := List.mem_map.mp hMem
      have hIn := mem_children.mp hChild
      have hEntry := (hTree.lookup?_eq_some_iff (List.cons_ne_nil n l)).mpr hIn
      replace hVisit := (answer_entry _ depth _ _).symm.trans hVisit
      simp only [Entry.kind_eq_directory_iff] at hVisit
      split_ifs at hVisit with hKind hDescends
      have hBelow : fs.isDirectory (n :: l) = true := by rw [isDirectory_eq hEntry, hKind]
      have hEnter := Selection.enters_iff.mpr hDescends
      have hSize := dir.size_join (hTree.names hIn)
      obtain ⟨names, hEntered, hRefused⟩ := ih (place_of_entry hTree hOpens hBelow) hBelow hEnter
        (by omega) hVisit (entered_nil_iff.mpr ⟨hBelow, hEnter⟩)
      exact ⟨n :: names, entered_cons_iff.mpr ⟨⟨hDir, hEnters⟩, hEntered⟩, hRefused⟩

-- ---------------------------------------------------------------------------
-- From the root
-- ---------------------------------------------------------------------------

/-- A walk from a root that is no link cannot examine the root, explores it, or fails at a
directory that it enters and that cannot be listed. -/
theorem fromRoot_cases (hTree : fs.WellFormed) (selection : Selection)
    (refusals : Call → Option IoError)
    (hRoot : ∀ s, fs.linkStatus root = .ok s → s.kind ≠ .link) :
    (∃ cause, fs.reply refusals (.linkStatus root) = .error cause ∧
      (fromRoot root selection).answer (fs.reply refusals) = .error (root, cause)) ∨
    (∃ s, fs.reply refusals (.linkStatus root) = .ok s) ∧ ∃ l, fs.locate false root = .ok l ∧
      ((∃ found, (fromRoot root selection).answer (fs.reply refusals) = .ok found ∧
        Explored selection fs refusals root l found) ∨
      ∃ failure names, (fromRoot root selection).answer (fs.reply refusals) = .error failure ∧
        Entered selection fs refusals root l names ∧
        ∃ cause, fs.reply refusals (.list (root.below names)) = .error cause) := by
  rw [fromRoot, Program.answer_bind, Program.answer_linkStatus]
  cases hReply : fs.reply refusals (.linkStatus root) with
  | error cause => exact Or.inl ⟨cause, rfl, rfl⟩
  | ok s =>
    have hStatus := linkStatus_of_reply hReply
    obtain ⟨l, e, hLocate, hEntry, rfl⟩ := exists_place hStatus
    refine Or.inr ⟨⟨_, rfl⟩, l, hLocate, ?_⟩
    cases e with
    | link target => exact absurd rfl (hRoot _ hStatus)
    | file content mode =>
      refine Or.inl ⟨_, ?_, explored_file hEntry rfl⟩
      simp only [Entry.status, Program.answer_bind, answer_report]
      rfl
    | directory mode =>
      have hDir : fs.isDirectory l = true := isDirectory_eq hEntry
      simp only [Entry.status, Program.answer_bind]
      by_cases hDescends : (selection.descends root).answer (fs.reply refusals) = true
      · rw [if_pos hDescends]
        have hEnters := Selection.enters_iff.mpr hDescends
        have hPlace : ∀ l', fs.locate true root = .ok l' → l' = l := by
          intro l' hThere
          exact Except.ok.inj (hThere.symm.trans (locate_true_of_false hLocate hEntry rfl))
        cases hAnswer : (inside selection pathLimit root).answer (fs.reply refusals) with
        | ok found => exact Or.inl ⟨found, rfl, inside_explored hTree hPlace hDir hEnters hAnswer⟩
        | error failure =>
          obtain ⟨names, hEntered, hRefused⟩ :=
            exists_refused hTree hPlace hDir hEnters (Nat.le_add_right ..) hAnswer
          exact Or.inr ⟨failure, names, rfl, hEntered, hRefused⟩
      · rw [if_neg hDescends]
        have hNot := mt Selection.enters_iff.mp hDescends
        exact Or.inl ⟨[], rfl, explored_rejected hDir hNot⟩

end Walk

theorem answer_walk_eq_ok_iff {selection : Selection} {root : Path} {reply : (c : Call) → c.Reply}
    {found : List Path} : (walk root selection).answer reply = .ok found ↔
      (Walk.fromRoot root selection).answer reply = .ok found := by
  rw [walk, Program.answer_bind]
  cases (Walk.fromRoot root selection).answer reply with
  | error failure => exact iff_of_false (fun h => by cases h) (fun h => by cases h)
  | ok paths =>
    constructor <;> intro h <;> exact congrArg Except.ok (Except.ok.inj h)

/-- A walk finds accepted paths, in the order of paths. -/
theorem walk_ordered {selection : Selection} {root : Path} {reply : (c : Call) → c.Reply}
    (hLists : Walk.ListsInOrder reply) {found : List Path}
    (h : (walk root selection).answer reply = .ok found) :
    (∀ p ∈ found, (selection.includes p).answer reply = true) ∧
      found.Pairwise fun p q => p.key < q.key :=
  Walk.fromRoot_ordered hLists (answer_walk_eq_ok_iff.mp h)

/-- A walk from a root that is no link cannot examine the root, explores it, or fails at a
directory that it enters and that cannot be listed. -/
theorem walk_cases {fs : FileSystem} (hTree : fs.WellFormed) (selection : Selection)
    (refusals : Call → Option IoError) {root : Path}
    (hRoot : ∀ s, fs.linkStatus root = .ok s → s.kind ≠ .link) :
    (∃ cause failure, fs.reply refusals (.linkStatus root) = .error cause ∧
      (walk root selection).answer (fs.reply refusals) = .error failure) ∨
    (∃ s, fs.reply refusals (.linkStatus root) = .ok s) ∧ ∃ l, fs.locate false root = .ok l ∧
      ((∃ found, (walk root selection).answer (fs.reply refusals) = .ok found ∧
        Walk.Explored selection fs refusals root l found) ∨
      ∃ failure names, (walk root selection).answer (fs.reply refusals) = .error failure ∧
        Walk.Entered selection fs refusals root l names ∧
        ∃ cause, fs.reply refusals (.list (root.below names)) = .error cause) := by
  rw [walk, Program.answer_bind]
  obtain ⟨cause, hReply, hAnswer⟩ | ⟨hStatus, l, hLocate,
      ⟨found, hAnswer, hExplored⟩ | ⟨failure, names, hAnswer, hEntered, hRefused⟩⟩ :=
    Walk.fromRoot_cases hTree selection refusals hRoot
  · rw [hAnswer]
    exact Or.inl ⟨cause, _, hReply, rfl⟩
  · rw [hAnswer]
    exact Or.inr ⟨hStatus, l, hLocate, Or.inl ⟨found, rfl, hExplored⟩⟩
  · rw [hAnswer]
    exact Or.inr ⟨hStatus, l, hLocate, Or.inr ⟨_, names, rfl, hEntered, hRefused⟩⟩

/-- **A walk finds exactly what is reached.** Let the root be no link, and let some calls be
refused. A walk that ends well lists, in the order of paths and each once, the entries at or below
its root that are no directories, that the file filter accepts, and to which only real directories
lead that the directory filter accepts. It fails just if the root cannot be examined or a directory
that it enters cannot be listed; a directory that is not entered never counts. -/
theorem walk_reaches {fs : FileSystem} (hTree : fs.WellFormed) (selection : Selection)
    (refusals : Call → Option IoError) {root : Path}
    (hRoot : ∀ s, fs.linkStatus root = .ok s → s.kind ≠ .link) :
    ∃ answer, ((walk root selection).refusing refusals).run fs = (answer, fs) ∧
      (∀ found, answer = .ok found → ∃ l, fs.locate false root = .ok l ∧
        (∀ p, p ∈ found ↔
          ∃ names, p = root.below names ∧ Walk.Reached selection fs refusals root l names) ∧
        (found.Pairwise fun p q => p.key < q.key) ∧ Path.sortedSet found = found) ∧
      ((∃ failure, answer = .error failure) ↔
        (∃ cause, fs.reply refusals (.linkStatus root) = .error cause) ∨
        ∃ l names, fs.locate false root = .ok l ∧
          Walk.Entered selection fs refusals root l names ∧
          ∃ cause, fs.reply refusals (.list (root.below names)) = .error cause) := by
  have hRun := Program.run_refusing (walk_surveys root selection).readOnly refusals fs
  refine ⟨_, hRun, ?_⟩
  obtain ⟨cause, failure, hReply, hAnswer⟩ | ⟨⟨s, hReply⟩, l, hLocate,
      ⟨found, hAnswer, hExplored⟩ | ⟨failure, names, hAnswer, hEntered, hRefused⟩⟩ :=
    walk_cases hTree selection refusals hRoot
  · -- the root cannot be examined
    rw [hAnswer]
    refine ⟨fun found hFound => ?_, iff_of_true ⟨_, rfl⟩ (Or.inl ⟨cause, hReply⟩)⟩
    cases hFound
  · rw [hAnswer]
    refine ⟨fun found' hOk => ?_, iff_of_false ?_ ?_⟩
    · obtain rfl := Except.ok.inj hOk
      have hOrdered := (walk_ordered (Walk.listsInOrder_reply hTree refusals) hAnswer).2
      refine ⟨l, hLocate, hExplored.mem_iff, hOrdered, ?_⟩
      exact eq_of_increasing (Path.increasing_sortedSet _) hOrdered fun p =>
        Path.mem_sortedSet (hOrdered.imp ne_of_lt)
    · rintro ⟨failure, hError⟩
      cases hError
    · rintro (⟨cause, hError⟩ | ⟨l', names, hLocate', hEntered, cause, hError⟩)
      · rw [hReply] at hError
        cases hError
      · obtain rfl := Except.ok.inj (hLocate.symm.trans hLocate')
        obtain ⟨entries, hList⟩ := hExplored.listed names hEntered
        rw [hList] at hError
        cases hError
  · rw [hAnswer]
    refine ⟨fun found hFound => ?_, iff_of_true ⟨_, rfl⟩ (Or.inr ?_)⟩
    · cases hFound
    · exact ⟨l, names, hLocate, hEntered, hRefused⟩

-- ---------------------------------------------------------------------------
-- A tree with a closed directory
-- ---------------------------------------------------------------------------

namespace Walk

/-- A tree with a file and a directory. -/
def guardedTree : FileSystem :=
  ⟨[(["a.rs"], .file [0x41] 0o644), (["lib"], .directory 0o700)], []⟩

/-- The selection that keeps out of libraries. -/
def outsideLibraries : Selection :=
  ⟨[.unnamed (.ofLiterals "directory" ["lib"])], []⟩

/-- The directory may not be opened. -/
def closedLibrary (c : Call) : Option IoError :=
  if c = .list ⟨"./lib"⟩ then some (.system 13) else none

theorem lookup?_guardedTree {n : String} {l : Location} {e : Entry}
    (h : guardedTree.lookup? (n :: l) = some e) :
    n :: l = ["a.rs"] ∧ e = .file [0x41] 0o644 ∨ n :: l = ["lib"] ∧ e = .directory 0o700 := by
  rw [lookup?, if_neg (List.cons_ne_nil n l)] at h
  have hMem := mem_of_lookup h
  simpa [guardedTree] using hMem

theorem wellFormed_guardedTree : guardedTree.WellFormed :=
  .of_entries (by decide) (by decide)

/-- The closed directory is not entered, so that the walk ends well and finds the file. -/
theorem walk_reaches_past_closed_directory :
    ((walk ⟨"."⟩ outsideLibraries).refusing closedLibrary).run guardedTree =
      (.ok [⟨"./a.rs"⟩], guardedTree) := by
  have hStatus : guardedTree.linkStatus ⟨"."⟩ = .ok ⟨.directory, 0o755⟩ := rfl
  obtain ⟨answer, hRun, hFound, hFails⟩ :=
    walk_reaches wellFormed_guardedTree outsideLibraries closedLibrary
      (FileSystem.noLink_of_directory hStatus)
  have hRootPlace : ∀ {l}, guardedTree.locate false ⟨"."⟩ = .ok l → l = [] := by
    intro l hLocate
    have hHere : guardedTree.locate false ⟨"."⟩ = .ok [] := rfl
    exact Except.ok.inj (hLocate.symm.trans hHere)
  have hKeepsOut : ¬ outsideLibraries.Enters guardedTree closedLibrary ⟨"./lib"⟩ := by
    decide
  -- no directory below the root is entered
  have hOnlyRoot : ∀ n, ¬ (guardedTree.isDirectory [n] = true ∧
      outsideLibraries.Enters guardedTree closedLibrary ((⟨"."⟩ : Path).join ⟨n⟩)) := by
    rintro n ⟨hDir, hEnters⟩
    obtain ⟨mode, hEntry⟩ := exists_directory hDir
    rcases lookup?_guardedTree hEntry with ⟨-, hFile⟩ | ⟨hPlace, -⟩
    · cases hFile
    · rw [(List.cons.inj hPlace).1] at hEnters
      exact hKeepsOut hEnters
  cases answer with
  | error failure =>
    rcases hFails.mp ⟨failure, rfl⟩ with ⟨cause, hRefused⟩ |
      ⟨l, names, hLocate, hEntered, cause, hRefused⟩
    · have hReply : guardedTree.reply closedLibrary (.linkStatus ⟨"."⟩) =
          .ok ⟨.directory, 0o755⟩ := rfl
      rw [hReply] at hRefused
      cases hRefused
    · obtain rfl := hRootPlace hLocate
      cases names with
      | nil => cases hRefused
      | cons n rest =>
        have hBelow := (entered_cons_iff.mp hEntered).2
        exact absurd (hBelow [] List.nil_prefix) (hOnlyRoot n)
  | ok found =>
    obtain ⟨l, hLocate, hMem, hOrdered, -⟩ := hFound found rfl
    obtain rfl := hRootPlace hLocate
    have hSame : found = [⟨"./a.rs"⟩] := by
      refine eq_of_increasing hOrdered (List.pairwise_singleton _ _) fun p => ?_
      rw [hMem, List.mem_singleton]
      constructor
      · rintro ⟨names, rfl, hReached⟩
        cases names with
        | nil => exact absurd hReached (not_reached_nil rfl)
        | cons n rest =>
          cases rest with
          | cons m more =>
            exact absurd (hReached.way [n] ⟨m :: more, rfl⟩ (by simp)) (hOnlyRoot n)
          | nil =>
            obtain ⟨e, hEntry, hPlain⟩ := hReached.entry
            rcases lookup?_guardedTree hEntry with ⟨hPlace, -⟩ | ⟨-, rfl⟩
            · rw [(List.cons.inj hPlace).1]
              decide
            · cases hPlain
      · rintro rfl
        refine ⟨["a.rs"], by decide, ⟨_, rfl, rfl⟩, by decide, ?_⟩
        intro front hFront hOther
        rcases List.prefix_cons_iff.mp hFront with rfl | ⟨rest, rfl, hRest⟩
        · exact ⟨rfl, by decide⟩
        · rw [List.prefix_nil.mp hRest] at hOther
          exact absurd rfl hOther
    rw [hRun, hSame]

end Walk

end LicenseAudit
