import LicenseAudit.Program.Basic
import LicenseAudit.Proofs.FileSystem.Resolve
import LicenseAudit.Proofs.Path.Parts
import LicenseAudit.Proofs.Success

/-!
# Directory trees

A file system is a directory tree: every place holds one entry, under a name that a directory can
hold, and every entry stands in a directory. No call of a program breaks this.

* `FileSystem.WellFormed` — the directory trees.

## Results

* `WellFormed.lookup?_eq_some_iff` — the entries of a directory tree are what its places hold.
* `find_of_read`, `find_of_list` — only files are read, and only directories are listed.
* `WellFormed.exists_vacant` — a path that leads to a place where nothing stands leads to a
  directory first.
* `WellFormed.perform` — every call keeps a directory tree a directory tree.
* `Program.wellFormed_run` — and so does every program.
-/

namespace LicenseAudit

namespace FileSystem

-- ---------------------------------------------------------------------------
-- Directory trees
-- ---------------------------------------------------------------------------

/-- A directory tree: one entry for each place, under a proper name and inside a directory. -/
structure WellFormed (fs : FileSystem) : Prop where
  distinct : (fs.entries.map Prod.fst).Nodup
  names    : ∀ {n : String} {dir : Location} {e : Entry}, (n :: dir, e) ∈ fs.entries →
    ProperName n
  parents  : ∀ {n : String} {dir : Location} {e : Entry}, (n :: dir, e) ∈ fs.entries →
    fs.isDirectory dir = true

theorem mem_of_lookup {entries : List (Location × Entry)} {l : Location} {e : Entry}
    (h : entries.lookup l = some e) : (l, e) ∈ entries := by
  obtain ⟨before, after, rfl, -⟩ := List.lookup_eq_some_iff.mp h
  exact List.mem_append_right _ (List.mem_cons_self ..)

theorem lookup_of_mem {entries : List (Location × Entry)} {l : Location} {e : Entry}
    (hDistinct : (entries.map Prod.fst).Nodup) (hMem : (l, e) ∈ entries) :
    entries.lookup l = some e := by
  induction entries with
  | nil => cases hMem
  | cons first rest ih =>
    obtain ⟨k, v⟩ := first
    rw [List.map_cons, List.nodup_cons] at hDistinct
    rw [List.lookup_cons]
    rcases List.mem_cons.mp hMem with hFirst | hLater
    · cases hFirst
      simp
    · have hOther : (l == k) = false := by
        rw [beq_eq_false_iff_ne]
        rintro rfl
        exact hDistinct.1 (List.mem_map.mpr ⟨_, hLater, rfl⟩)
      rw [hOther]
      exact ih hDistinct.2 hLater

/-- The entries of a directory tree are what its places hold. -/
theorem WellFormed.lookup?_eq_some_iff {fs : FileSystem} (h : fs.WellFormed) {l : Location}
    {e : Entry} (hBelow : l ≠ []) : fs.lookup? l = some e ↔ (l, e) ∈ fs.entries := by
  rw [lookup?, if_neg hBelow]
  exact ⟨mem_of_lookup, lookup_of_mem h.distinct⟩

/-- What stands in a directory tree stands in a directory. -/
theorem WellFormed.isDirectory_tail {fs : FileSystem} (h : fs.WellFormed) {l : Location}
    {e : Entry} (hEntry : fs.lookup? l = some e) : fs.isDirectory l.tail = true := by
  cases l with
  | nil => rfl
  | cons n dir =>
    exact h.parents ((h.lookup?_eq_some_iff (List.cons_ne_nil n dir)).mp hEntry)

-- ---------------------------------------------------------------------------
-- What a path denotes
-- ---------------------------------------------------------------------------

theorem filled_of_checkText {p : Path} (hText : checkText p = .ok ()) : p.text.toList ≠ [] := by
  intro hNil
  rw [checkText, String.toList_eq_nil_iff.mp hNil] at hText
  cases hText

theorem locate_eq_ok_iff {fs : FileSystem} {followLast : Bool} {p : Path} {l : Location} :
    fs.locate followLast p = .ok l ↔ checkText p = .ok () ∧
      fs.walkWithin followLast linkLimit (fs.start p) p.fullSteps = .ok l := by
  rw [locate]
  cases checkText p with
  | error e => simp [bind, Except.bind]
  | ok _ => simp [bind, Except.bind]

theorem find_eq_ok_iff {fs : FileSystem} {followLast : Bool} {p : Path} {l : Location}
    {e : Entry} :
    fs.find followLast p = .ok (l, e) ↔
      fs.locate followLast p = .ok l ∧ fs.lookup? l = some e := by
  rw [find]
  cases fs.locate followLast p with
  | error cause => simp [bind, Except.bind]
  | ok l' =>
    simp only [bind, Except.bind, Except.ok.injEq]
    constructor
    · intro hFound
      split at hFound
      case h_1 e' hEntry =>
        obtain ⟨rfl, rfl⟩ := Prod.mk.inj (Except.ok.inj hFound)
        exact ⟨rfl, hEntry⟩
      case h_2 => cases hFound
    · rintro ⟨rfl, hEntry⟩
      rw [hEntry]

/-- What has a status stands at some place. -/
theorem find_of_linkStatus {fs : FileSystem} {p : Path} {s : Status}
    (hStatus : fs.linkStatus p = .ok s) :
    ∃ l e, fs.find false p = .ok (l, e) ∧ s = e.status := by
  rw [linkStatus] at hStatus
  cases hFind : fs.find false p with
  | error cause =>
    rw [hFind] at hStatus
    cases hStatus
  | ok found =>
    rw [hFind] at hStatus
    exact ⟨_, _, rfl, (Except.ok.inj hStatus).symm⟩

theorem find_of_status {fs : FileSystem} {p : Path} {s : Status} (hStatus : fs.status p = .ok s) :
    ∃ l e, fs.find true p = .ok (l, e) ∧ s = e.status := by
  rw [status] at hStatus
  cases hFind : fs.find true p with
  | error cause =>
    rw [hFind] at hStatus
    cases hStatus
  | ok found =>
    rw [hFind] at hStatus
    exact ⟨_, _, rfl, (Except.ok.inj hStatus).symm⟩

/-- Only a file can be read. -/
theorem find_of_read {fs : FileSystem} {p : Path} {content : Bytes}
    (hRead : fs.read p = .ok content) :
    ∃ l mode, fs.find true p = .ok (l, .file content mode) := by
  rw [read] at hRead
  cases hFind : fs.find true p with
  | error cause =>
    rw [hFind] at hRead
    cases hRead
  | ok found =>
    obtain ⟨l, e⟩ := found
    rw [hFind] at hRead
    cases e with
    | file content' mode =>
      obtain rfl : content' = content := Except.ok.inj hRead
      exact ⟨l, mode, rfl⟩
    | directory | link => cases hRead

/-- Only a directory can be listed. -/
theorem find_of_list {fs : FileSystem} {p : Path} {entries : List (String × EntryKind)}
    (hList : fs.list p = .ok entries) :
    ∃ l mode, fs.find true p = .ok (l, .directory mode) ∧
      entries = (fs.children l).map fun c => (c.1, c.2.status.kind) := by
  rw [list] at hList
  cases hFind : fs.find true p with
  | error cause =>
    rw [hFind] at hList
    cases hList
  | ok found =>
    obtain ⟨l, e⟩ := found
    rw [hFind] at hList
    cases e with
    | directory mode => exact ⟨l, mode, rfl, (Except.ok.inj hList).symm⟩
    | file | link => cases hList

-- ---------------------------------------------------------------------------
-- Changes at one place
-- ---------------------------------------------------------------------------

variable {fs : FileSystem}

theorem distinct_erase {l : Location} (h : (fs.entries.map Prod.fst).Nodup) :
    ((fs.erase l).entries.map Prod.fst).Nodup :=
  (List.filter_sublist.map Prod.fst).nodup h

theorem distinct_put {l : Location} {e : Entry} (h : (fs.entries.map Prod.fst).Nodup) :
    ((fs.put l e).entries.map Prod.fst).Nodup := by
  rw [put, List.map_cons, List.nodup_cons]
  refine ⟨?_, distinct_erase h⟩
  intro hMem
  obtain ⟨entry, hEntry, hPlace⟩ := List.mem_map.mp hMem
  simp [erase, hPlace] at hEntry

theorem isDirectory_put {l : Location} (hBelow : l ≠ []) (e : Entry) (k : Location) :
    (fs.put l e).isDirectory k = if k = l then e.isDirectory else fs.isDirectory k := by
  rw [isDirectory, lookup?_put fs hBelow, isDirectory]
  split_ifs <;> rfl

theorem isDirectory_erase {l : Location} (hBelow : l ≠ []) (k : Location) :
    (fs.erase l).isDirectory k = if k = l then false else fs.isDirectory k := by
  rw [isDirectory, lookup?_erase fs hBelow, isDirectory]
  split_ifs <;> rfl

/-- Setting an entry in a directory, under a proper name, makes a directory tree again, unless a
directory would be replaced by something else. -/
theorem WellFormed.put (h : fs.WellFormed) {n : String} {dir : Location} {e : Entry}
    (hProper : ProperName n) (hDir : fs.isDirectory dir = true)
    (hKind : fs.isDirectory (n :: dir) = true → e.isDirectory = true) :
    (fs.put (n :: dir) e).WellFormed := by
  have hStays : ∀ {l : Location}, fs.isDirectory l = true →
      (fs.put (n :: dir) e).isDirectory l = true := by
    intro l hl
    rw [isDirectory_put (List.cons_ne_nil n dir)]
    split_ifs with hPlace
    · exact hKind (hPlace ▸ hl)
    · exact hl
  refine ⟨distinct_put h.distinct, fun hMem => ?_, fun hMem => ?_⟩
  · rcases List.mem_cons.mp hMem with hNew | hOld
    · cases hNew
      exact hProper
    · exact h.names (List.mem_of_mem_filter hOld)
  · rcases List.mem_cons.mp hMem with hNew | hOld
    · cases hNew
      exact hStays hDir
    · exact hStays (h.parents (List.mem_of_mem_filter hOld))

/-- Removing anything but a directory leaves a directory tree. -/
theorem WellFormed.erase (h : fs.WellFormed) {l : Location} (hBelow : l ≠ [])
    (hPlain : fs.isDirectory l = false) : (fs.erase l).WellFormed := by
  refine ⟨distinct_erase h.distinct, fun hMem => h.names (List.mem_of_mem_filter hMem),
    fun {n dir e} hMem => ?_⟩
  have hDir := h.parents (List.mem_of_mem_filter hMem)
  rw [isDirectory_erase hBelow, if_neg]
  · exact hDir
  · rintro rfl
    rw [hPlain] at hDir
    cases hDir

-- ---------------------------------------------------------------------------
-- Places where nothing stands
-- ---------------------------------------------------------------------------

/-- A path that leads to a place where nothing stands leads to a directory first, and then to a
proper name. -/
theorem WellFormed.exists_vacant (hTree : fs.WellFormed) {followLast : Bool} {k : Nat}
    {here l : Location} {steps : List String}
    (hSteps : ∀ s ∈ steps, '/' ∉ s.toList ∧ s.toList ≠ [])
    (hHere : steps = [] → fs.lookup? here ≠ none)
    (h : fs.walkWithin followLast k here steps = .ok l) (hVacant : fs.lookup? l = none) :
    ∃ n dir, l = n :: dir ∧ ProperName n ∧ fs.isDirectory dir = true := by
  induction k using Nat.strongRecOn generalizing here steps with
  | ind k ihLinks =>
    induction steps generalizing here with
    | nil =>
      rw [walkWithin_nil] at h
      exact absurd (Except.ok.inj h ▸ hVacant) (hHere rfl)
    | cons name rest ih =>
      have hRestSteps : ∀ s ∈ rest, '/' ∉ s.toList ∧ s.toList ≠ [] :=
        fun s hMem => hSteps s (List.mem_cons_of_mem _ hMem)
      have hStands : ∀ {d : Location}, fs.isDirectory d = true → fs.lookup? d ≠ none := by
        intro d hd hNone
        rw [isDirectory, hNone] at hd
        cases hd
      obtain ⟨hDir, hStep⟩ := firstStep_of_ok h
      cases hStep with
      | stay hRest => exact ih hRestSteps (fun _ => hStands hDir) hRest
      | up hRest =>
        obtain ⟨mode, hEntry⟩ := exists_directory hDir
        exact ih hRestSteps (fun _ => hStands (hTree.isDirectory_tail hEntry)) hRest
      | vacant hName _ hPlace | linked hName _ hPlace =>
        obtain ⟨hNoSlash, hFilled⟩ := hSteps name (List.mem_cons_self ..)
        exact ⟨name, here, hPlace, ⟨hNoSlash, hFilled, hName.notHere, hName.notUp⟩, hDir⟩
      | enter hName hEntry hPlain hRest =>
        exact ih hRestSteps (fun _ => by rw [hEntry]; exact Option.some_ne_none _) hRest
      | @follow links _ _ target hName hEntry hFollow hRest =>
        refine ihLinks links (Nat.lt_succ_self links) (fun s hMem => ?_) (fun _ => ?_) hRest
        · rcases List.mem_append.mp hMem with hTarget | hLater
          · exact Path.clean_of_mem_fullSteps hTarget
          · exact hRestSteps s hLater
        · split_ifs
          · exact Option.some_ne_none _
          · exact hStands hDir

/-- The directory and the name that a change of a path is about. -/
theorem exists_parent {p : Path} {dir : Location} {n : String}
    (h : fs.locateParent p = .ok (dir, some n)) : fs.isDirectory dir = true ∧ ProperName n := by
  rw [locateParent] at h
  cases hText : checkText p with
  | error e =>
    rw [hText] at h
    cases h
  | ok _ =>
    cases hWalk : fs.walkWithin true linkLimit (fs.start p) p.steps.dropLast with
    | error e =>
      rw [hText, hWalk] at h
      cases h
    | ok d =>
      rw [hText, hWalk] at h
      simp only [bind, Except.bind, pure, Except.pure] at h
      cases hDir : fs.isDirectory d with
      | false => simp [hDir] at h
      | true =>
        cases hLast : p.steps.getLast? with
        | none => simp [hDir, hLast] at h
        | some name =>
          simp only [hDir, hLast, Bool.not_true, Bool.false_eq_true, if_false, Except.ok.injEq,
            Prod.mk.injEq, Option.ite_none_left_eq_some, Option.some.injEq] at h
          obtain ⟨rfl, hName, rfl⟩ := h
          rw [Bool.or_eq_true, decide_eq_true_iff, decide_eq_true_iff, not_or] at hName
          have hStep : name ∈ p.fullSteps :=
            List.mem_append_left _ (List.mem_of_getLast? hLast)
          obtain ⟨hNoSlash, hFilled⟩ := Path.clean_of_mem_fullSteps hStep
          exact ⟨hDir, hNoSlash, hFilled, hName.1, hName.2⟩

-- ---------------------------------------------------------------------------
-- Calls that change something
-- ---------------------------------------------------------------------------

variable {fs' : FileSystem} {p q : Path}

/-- A file is written where nothing stands or a file does. -/
theorem write_eq_ok {content : Bytes} (h : fs.write p content = .ok fs') :
    ∃ l, fs.locate true p = .ok l ∧
      (fs.lookup? l = none ∧ fs' = fs.put l (.file content fileMode) ∨
        ∃ old mode, fs.lookup? l = some (.file old mode) ∧
          fs' = fs.put l (.file content mode)) := by
  rw [write] at h
  split at h
  · cases h
  · cases hLocate : fs.locate true p with
    | error cause =>
      rw [hLocate] at h
      cases h
    | ok l =>
      rw [hLocate] at h
      simp only [bind, Except.bind] at h
      refine ⟨l, rfl, ?_⟩
      cases hEntry : fs.lookup? l with
      | none =>
        rw [hEntry] at h
        exact Or.inl ⟨rfl, (Except.ok.inj h).symm⟩
      | some e =>
        rw [hEntry] at h
        cases e with
        | file old mode => exact Or.inr ⟨old, mode, rfl, (Except.ok.inj h).symm⟩
        | directory | link => cases h

/-- Permission bits are set at the place of a file or a directory. -/
theorem setMode_eq_ok {mode : Nat} (h : fs.setMode p mode = .ok fs') :
    ∃ l, (∃ content old, fs.lookup? l = some (.file content old) ∧
        fs' = fs.put l (.file content mode)) ∨
      ∃ old, fs.lookup? l = some (.directory old) ∧ fs' = fs.put l (.directory mode) := by
  rw [setMode] at h
  cases hFind : fs.find true p with
  | error cause =>
    rw [hFind] at h
    cases h
  | ok found =>
    obtain ⟨l, e⟩ := found
    have hEntry := (find_eq_ok_iff.mp hFind).2
    rw [hFind] at h
    refine ⟨l, ?_⟩
    cases e with
    | file content old => exact Or.inl ⟨content, old, hEntry, (Except.ok.inj h).symm⟩
    | directory old => exact Or.inr ⟨old, hEntry, (Except.ok.inj h).symm⟩
    | link => cases h

/-- What is moved is no directory, and replaces none. It gets a name that fits, and no separator
stands behind it. -/
theorem rename_eq_ok (h : fs.rename p q = .ok fs') :
    ∃ sourceDir source targetDir target e, fs.locateParent p = .ok (sourceDir, some source) ∧
      fs.locateParent q = .ok (targetDir, some target) ∧
      fs.lookup? (source :: sourceDir) = some e ∧ e.isDirectory = false ∧
      fs.isDirectory (target :: targetDir) = false ∧
      (q.endsWithSeparator = false ∧ target.utf8ByteSize ≤ nameLimit) ∧
      (source :: sourceDir = target :: targetDir ∧ fs' = fs ∨
        fs' = (fs.erase (source :: sourceDir)).put (target :: targetDir) e) := by
  rw [rename] at h
  obtain ⟨⟨sourceDir, source?⟩, hSource, h⟩ := bind_eq_ok_iff.mp h
  obtain ⟨⟨targetDir, target?⟩, hTarget, h⟩ := bind_eq_ok_iff.mp h
  cases source? with
  | none => cases h
  | some source =>
    cases target? with
    | none => cases h
    | some target =>
      obtain ⟨-, h⟩ := of_guard h
      cases hEntry : fs.lookup? (source :: sourceDir) with
      | none => simp [hEntry] at h
      | some e =>
        simp only [hEntry] at h
        obtain ⟨hShort, h⟩ := of_guard h
        obtain ⟨hPlain, h⟩ := of_guard h
        obtain ⟨hOpen, h⟩ := of_guard h
        obtain ⟨hFree, h⟩ := of_guard h
        rw [Bool.or_eq_true, not_or] at hOpen
        refine ⟨sourceDir, source, targetDir, target, e, hSource, hTarget, hEntry,
          eq_false_of_ne_true hPlain, eq_false_of_ne_true hFree,
          ⟨eq_false_of_ne_true hOpen.2, Nat.not_lt.mp hShort⟩, ?_⟩
        split_ifs at h with hSame
        · exact Or.inl ⟨hSame, (Except.ok.inj h).symm⟩
        · exact Or.inr (Except.ok.inj h).symm

/-- What is removed is no directory. It has a name that fits, and no separator stands behind it. -/
theorem remove_eq_ok (h : fs.remove p = .ok fs') :
    ∃ dir n e, fs.locateParent p = .ok (dir, some n) ∧ fs.lookup? (n :: dir) = some e ∧
      e.isDirectory = false ∧ (p.endsWithSeparator = false ∧ n.utf8ByteSize ≤ nameLimit) ∧
      fs' = fs.erase (n :: dir) := by
  rw [remove] at h
  obtain ⟨⟨dir, n?⟩, hParent, h⟩ := bind_eq_ok_iff.mp h
  cases n? with
  | none => cases h
  | some n =>
    obtain ⟨hShort, h⟩ := of_guard h
    cases hEntry : fs.lookup? (n :: dir) with
    | none => simp [hEntry] at h
    | some e =>
      simp only [hEntry] at h
      obtain ⟨hPlain, h⟩ := of_guard h
      obtain ⟨hOpen, h⟩ := of_guard h
      exact ⟨dir, n, e, hParent, hEntry, eq_false_of_ne_true hPlain,
        ⟨eq_false_of_ne_true hOpen, Nat.not_lt.mp hShort⟩, (Except.ok.inj h).symm⟩

-- ---------------------------------------------------------------------------
-- Calls keep directory trees
-- ---------------------------------------------------------------------------

/-- The root stays a directory, whatever is entered for it. -/
theorem lookup?_put_root (e : Entry) (l : Location) : (fs.put [] e).lookup? l = fs.lookup? l := by
  cases l with
  | nil => rfl
  | cons n dir =>
    have hOther : (n :: dir) ≠ ([] : Location) := List.cons_ne_nil n dir
    rw [lookup?, lookup?, if_neg hOther, if_neg hOther, FileSystem.put, List.lookup_cons,
      beq_false_of_ne hOther]
    simp [FileSystem.erase, lookup_filter_ne]

/-- Setting an entry in the place of one of the same kind makes a directory tree again. -/
theorem WellFormed.put_same (h : fs.WellFormed) {l : Location} {e e' : Entry}
    (hEntry : fs.lookup? l = some e) (hKind : e.isDirectory = true → e'.isDirectory = true) :
    (fs.put l e').WellFormed := by
  cases l with
  | nil =>
    refine ⟨distinct_put h.distinct, fun hMem => ?_, fun {n dir entry} hMem => ?_⟩
    · rcases List.mem_cons.mp hMem with hNew | hOld
      · cases hNew
      · exact h.names (List.mem_of_mem_filter hOld)
    · rcases List.mem_cons.mp hMem with hNew | hOld
      · cases hNew
      · rw [isDirectory, lookup?_put_root]
        exact h.parents (List.mem_of_mem_filter hOld)
  | cons n dir =>
    have hMem := (h.lookup?_eq_some_iff (List.cons_ne_nil n dir)).mp hEntry
    refine h.put (h.names hMem) (h.parents hMem) fun hDir => ?_
    rw [isDirectory, hEntry] at hDir
    exact hKind hDir

theorem WellFormed.write (h : fs.WellFormed) {content : Bytes}
    (hWrite : fs.write p content = .ok fs') : fs'.WellFormed := by
  obtain ⟨l, hLocate, ⟨hVacant, rfl⟩ | ⟨old, mode, hFile, rfl⟩⟩ := write_eq_ok hWrite
  · obtain ⟨hText, hWalk⟩ := locate_eq_ok_iff.mp hLocate
    obtain ⟨n, dir, rfl, hProper, hDir⟩ :=
      h.exists_vacant (fun s hMem => Path.clean_of_mem_fullSteps hMem)
        (fun hNil => absurd hNil (Path.fullSteps_ne_nil (filled_of_checkText hText))) hWalk hVacant
    refine h.put hProper hDir fun hThere => ?_
    rw [isDirectory, hVacant] at hThere
    cases hThere
  · exact h.put_same hFile fun hDir => by cases hDir

theorem WellFormed.setMode (h : fs.WellFormed) {mode : Nat}
    (hSet : fs.setMode p mode = .ok fs') : fs'.WellFormed := by
  obtain ⟨l, ⟨content, old, hFile, rfl⟩ | ⟨old, hDir, rfl⟩⟩ := setMode_eq_ok hSet
  · exact h.put_same hFile fun hKind => by cases hKind
  · exact h.put_same hDir fun _ => rfl

theorem WellFormed.rename (h : fs.WellFormed) (hRename : fs.rename p q = .ok fs') :
    fs'.WellFormed := by
  obtain ⟨sourceDir, source, targetDir, target, e, hSource, hTarget, hEntry, hPlain, hFree, -,
    ⟨-, rfl⟩ | rfl⟩ := rename_eq_ok hRename
  · exact h
  · have hSourcePlain : fs.isDirectory (source :: sourceDir) = false := by
      rw [isDirectory, hEntry]
      exact hPlain
    obtain ⟨hDir, hProper⟩ := exists_parent hTarget
    have hErase := h.erase (List.cons_ne_nil source sourceDir) hSourcePlain
    refine hErase.put hProper ?_ fun hThere => ?_
    · rw [isDirectory_erase (List.cons_ne_nil source sourceDir), if_neg]
      · exact hDir
      · rintro rfl
        rw [hSourcePlain] at hDir
        cases hDir
    · rw [isDirectory_erase (List.cons_ne_nil source sourceDir)] at hThere
      split_ifs at hThere
      rw [hFree] at hThere
      cases hThere

theorem WellFormed.remove (h : fs.WellFormed) (hRemove : fs.remove p = .ok fs') :
    fs'.WellFormed := by
  obtain ⟨dir, n, e, -, hEntry, hPlain, -, rfl⟩ := remove_eq_ok hRemove
  refine h.erase (List.cons_ne_nil n dir) ?_
  rw [isDirectory, hEntry]
  exact hPlain

theorem WellFormed.change (h : fs.WellFormed) {r : Except IoError FileSystem}
    (hChange : ∀ fs', r = .ok fs' → fs'.WellFormed) : (fs.change r).2.WellFormed := by
  cases hr : r with
  | error cause => exact h
  | ok fs' => exact hChange fs' hr

/-- **Every call keeps a directory tree a directory tree.** -/
theorem WellFormed.perform (h : fs.WellFormed) (c : Call) : (fs.perform c).2.WellFormed := by
  cases c with
  | read | status | linkStatus | list | canonical | elapsed => exact h
  | write p content => exact h.change fun _ => h.write
  | setMode p mode => exact h.change fun _ => h.setMode
  | rename p q => exact h.change fun _ => h.rename
  | remove p => exact h.change fun _ => h.remove

theorem workingDirectory_change (fs : FileSystem) {r : Except IoError FileSystem}
    (hChange : ∀ fs', r = .ok fs' → fs'.workingDirectory = fs.workingDirectory) :
    (fs.change r).2.workingDirectory = fs.workingDirectory := by
  cases hr : r with
  | error cause => rfl
  | ok fs' => exact hChange fs' hr

/-- No call leads to another working directory. -/
theorem workingDirectory_perform (fs : FileSystem) (c : Call) :
    (fs.perform c).2.workingDirectory = fs.workingDirectory := by
  cases c with
  | read | status | linkStatus | list | canonical | elapsed => rfl
  | write p content =>
    refine fs.workingDirectory_change fun fs' hWrite => ?_
    obtain ⟨l, -, ⟨-, rfl⟩ | ⟨_, _, -, rfl⟩⟩ := write_eq_ok hWrite <;> rfl
  | setMode p mode =>
    refine fs.workingDirectory_change fun fs' hMode => ?_
    obtain ⟨l, ⟨_, _, -, rfl⟩ | ⟨_, -, rfl⟩⟩ := setMode_eq_ok hMode <;> rfl
  | rename p q =>
    refine fs.workingDirectory_change fun fs' hRename => ?_
    obtain ⟨_, _, _, _, _, -, -, -, -, -, -, ⟨-, rfl⟩ | rfl⟩ := rename_eq_ok hRename <;> rfl
  | remove p =>
    refine fs.workingDirectory_change fun fs' hRemove => ?_
    obtain ⟨_, _, _, -, -, -, -, rfl⟩ := remove_eq_ok hRemove
    rfl

end FileSystem

/-- A program keeps a directory tree a directory tree. -/
theorem Program.wellFormed_run {α : Type} (p : Program α) {fs : FileSystem}
    (h : fs.WellFormed) : (p.run fs).2.WellFormed := by
  induction p generalizing fs with
  | done a => exact h
  | call c next ih => exact ih _ (h.perform c)

/-- A program stays in its working directory. -/
theorem Program.workingDirectory_run {α : Type} (p : Program α) (fs : FileSystem) :
    (p.run fs).2.workingDirectory = fs.workingDirectory := by
  induction p generalizing fs with
  | done a => rfl
  | call c next ih => exact (ih _ _).trans (fs.workingDirectory_perform c)

end LicenseAudit
