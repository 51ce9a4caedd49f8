import LicenseAudit.Proofs.FileSystem.Seat
import LicenseAudit.Proofs.Path.Below

/-!
# What stands below a directory

A directory can be listed under a path if the system accepts the path. In a directory that is
listed, what can be said of a path to one of its entries depends on the name of the entry only,
unless the path is too long.

* `Usable` — a name that the system takes;
* `FileSystem.Lists` — a path under which the entries of a directory are listed;
* `FileSystem.Hosts` — a directory at a root, no path below which is too long;
* `FileSystem.SameBelow` — the same entries stand below two places.

## Results

* `exists_list_error` — a path that is too long is not listed.
* `Lists.join`, `Lists.usable`, `Lists.noLink_iff` — what is seen of an entry of a listed directory.
-/

namespace LicenseAudit

open FileSystem

-- ---------------------------------------------------------------------------
-- Entries and their places
-- ---------------------------------------------------------------------------

/-- Entries of the kind of directories are directories. -/
theorem Entry.kind_eq_directory_iff {e : Entry} :
    e.status.kind = .directory ↔ e.isDirectory = true := by
  cases e <;> simp [Entry.status, Entry.isDirectory]

namespace FileSystem

theorem isDirectory_eq {fs : FileSystem} {l : Location} {e : Entry}
    (h : fs.lookup? l = some e) : fs.isDirectory l = e.isDirectory := by
  rw [isDirectory, h]

/-- What stands below a directory in a directory tree has proper names. -/
theorem WellFormed.properNames {fs : FileSystem} (hTree : fs.WellFormed) {l : Location}
    {names : List String} {e : Entry} (h : fs.lookup? (l.below names) = some e) :
    ∀ n ∈ names, ProperName n := by
  induction names using List.reverseRecOn generalizing e with
  | nil => exact fun n hMem => absurd hMem List.not_mem_nil
  | append_singleton front last ih =>
    rw [Location.below_concat] at h
    have hMem := (hTree.lookup?_eq_some_iff (List.cons_ne_nil _ _)).mp h
    obtain ⟨mode, hParent⟩ := exists_directory (hTree.parents hMem)
    intro n hIn
    rcases List.mem_append.mp hIn with hFront | hLast
    · exact ih hParent n hFront
    · rw [List.mem_singleton.mp hLast]
      exact hTree.names hMem

variable {fs : FileSystem} {dir : Path} {l : Location}

instance (n : String) : Decidable (ProperName n) :=
  decidable_of_iff ('/' ∉ n.toList ∧ n.toList ≠ [] ∧ n ≠ "." ∧ n ≠ "..")
    ⟨fun h => ⟨h.1, h.2.1, h.2.2.1, h.2.2.2⟩,
      fun h => ⟨h.noSlash, h.notEmpty, h.notHere, h.notUp⟩⟩

/-- Whether a system is a directory tree can be seen of its entries one by one. -/
theorem WellFormed.of_entries (hDistinct : (fs.entries.map Prod.fst).Nodup)
    (h : ∀ entry ∈ fs.entries,
      (∀ n ∈ entry.1.head?, ProperName n) ∧ fs.isDirectory entry.1.tail = true) :
    fs.WellFormed where
  distinct := hDistinct
  names hMem := (h _ hMem).1 _ rfl
  parents hMem := (h _ hMem).2

/-- The status of a path is that of the entry in its place. -/
theorem linkStatus_eq {p : Path} {e : Entry} (hLocate : fs.locate false p = .ok l)
    (hEntry : fs.lookup? l = some e) : fs.linkStatus p = .ok e.status := by
  rw [FileSystem.linkStatus, find_eq_ok_iff.mpr ⟨hLocate, hEntry⟩]
  rfl

/-- A real directory is no link. -/
theorem noLink_of_directory {p : Path} {mode : Nat}
    (h : fs.linkStatus p = .ok ⟨.directory, mode⟩) :
    ∀ s, fs.linkStatus p = .ok s → s.kind ≠ .link := by
  intro s hOk
  rw [h] at hOk
  cases hOk
  exact EntryKind.noConfusion

/-- What has a status stands at some place. -/
theorem exists_place {p : Path} {s : Status} (h : fs.linkStatus p = .ok s) :
    ∃ l e, fs.locate false p = .ok l ∧ fs.lookup? l = some e ∧ s = e.status := by
  obtain ⟨l, e, hFind, hStatus⟩ := find_of_linkStatus h
  obtain ⟨hLocate, hEntry⟩ := find_eq_ok_iff.mp hFind
  exact ⟨l, e, hLocate, hEntry, hStatus⟩

/-- Where no link stands, following links leads to the same place. -/
theorem locate_true_of_false {p : Path} {e : Entry} (hLocate : fs.locate false p = .ok l)
    (hEntry : fs.lookup? l = some e) (hPlain : e.isLink = false) :
    fs.locate true p = .ok l := by
  obtain ⟨hText, hWalk⟩ := locate_eq_ok_iff.mp hLocate
  refine locate_eq_ok_iff.mpr ⟨hText, walkWithin_true_of_false hWalk fun target hLink => ?_⟩
  obtain rfl := Option.some.inj (hEntry.symm.trans hLink)
  cases hPlain

/-- A path that is too long is not listed. -/
theorem exists_list_error (hLong : pathLimit ≤ dir.text.utf8ByteSize) :
    ∃ cause, fs.list dir = .error cause := by
  cases hList : fs.list dir with
  | error cause => exact ⟨cause, rfl⟩
  | ok entries =>
    obtain ⟨l, -, hLocate, -⟩ := opens_of_list hList
    have hText := (locate_eq_ok_iff.mp hLocate).1
    rw [checkText] at hText
    split_ifs at hText

end FileSystem

-- ---------------------------------------------------------------------------
-- Names in a path
-- ---------------------------------------------------------------------------

/-- The system takes the name: it is short enough and holds no zero byte. -/
structure Usable (n : String) : Prop where
  noZero : '\x00' ∉ n.toList
  short  : n.utf8ByteSize ≤ nameLimit

namespace Path

variable {dir : Path} {n : String}

theorem fileName?_join (dir : Path) (hProper : ProperName n) : (dir.join ⟨n⟩).fileName? = some n :=
  (named_join dir hProper).fileName?_eq

theorem zero_mem_join_iff (dir : Path) (hProper : ProperName n) :
    '\x00' ∈ (dir.join ⟨n⟩).text.toList ↔ '\x00' ∈ dir.text.toList ∨ '\x00' ∈ n.toList := by
  have hRelative := isAbsolute_of_proper hProper
  rw [join]
  split_ifs with hWhole hSlash
  · -- the directory is the empty path
    have hEmpty : dir.text = "" := by
      simpa [hRelative, String.isEmpty_iff] using hWhole
    simp [hEmpty]
  · simp
  · simp

/-- In a directory whose path is accepted, a path that is not too long is refused for its name
only. -/
theorem refusal?_join_iff (hDir : checkText dir = .ok ()) (hProper : ProperName n)
    (hFits : (dir.join ⟨n⟩).text.utf8ByteSize < pathLimit) :
    (dir.join ⟨n⟩).refusal? n = none ↔ Usable n := by
  have hSome : (dir.join ⟨n⟩).text.isEmpty = false := by
    have hSize := dir.size_join hProper
    rw [Bool.eq_false_iff]
    intro hEmpty
    rw [String.isEmpty_iff.mp hEmpty] at hSize
    exact absurd hSize (Nat.not_lt_zero _)
  have hNoZero : '\x00' ∉ dir.text.toList := by
    intro hZero
    rw [checkText, if_pos (List.contains_iff_mem.mpr hZero)] at hDir
    cases hDir
  have hText : checkText (dir.join ⟨n⟩) = .ok () ↔ '\x00' ∉ n.toList := by
    have hZero := zero_mem_join_iff dir hProper
    rw [or_iff_right hNoZero] at hZero
    rw [checkText, hSome, if_neg Bool.false_ne_true, if_neg (Nat.not_le.mpr hFits), ← hZero,
      ← List.contains_iff_mem]
    split_ifs with hIn
    · refine iff_of_false (fun hText => ?_) (not_not_intro hIn)
      cases hText
    · exact iff_of_true rfl hIn
  rw [refusal?_eq_none_iff, hText]
  exact ⟨fun h => ⟨h.1, h.2⟩, fun h => ⟨h.1, h.2⟩⟩

end Path

-- ---------------------------------------------------------------------------
-- Directories that are listed
-- ---------------------------------------------------------------------------

namespace FileSystem

variable {fs : FileSystem} {dir : Path} {l : Location} {n : String}

/-- Under the path the entries of the directory at the place are listed. -/
structure Lists (fs : FileSystem) (dir : Path) (l : Location) : Prop where
  located   : fs.locate true dir = .ok l
  directory : fs.isDirectory l = true

theorem Lists.opens (h : fs.Lists dir l) : fs.Opens dir l := by
  obtain ⟨mode, hEntry⟩ := exists_directory h.directory
  have hFind := find_eq_ok_iff.mpr ⟨h.located, hEntry⟩
  have hList : fs.list dir = .ok ((fs.children l).map fun c => (c.1, c.2.status.kind)) := by
    rw [FileSystem.list, hFind]
    rfl
  obtain ⟨l', hOpens, hLocated, -⟩ := opens_of_list hList
  obtain rfl := Except.ok.inj (h.located.symm.trans hLocated)
  exact hOpens

theorem Lists.list (h : fs.Lists dir l) : ∃ entries, fs.list dir = .ok entries := by
  obtain ⟨mode, hEntry⟩ := exists_directory h.directory
  refine ⟨(fs.children l).map fun c => (c.1, c.2.status.kind), ?_⟩
  rw [FileSystem.list, find_eq_ok_iff.mpr ⟨h.located, hEntry⟩]
  rfl

theorem lists_of_list {entries : List (String × EntryKind)} (h : fs.list dir = .ok entries) :
    ∃ l, fs.Lists dir l := by
  obtain ⟨l, hOpens, hLocated, -⟩ := opens_of_list h
  exact ⟨l, hLocated, hOpens.directory⟩

theorem Lists.refusal?_join_iff (h : fs.Lists dir l) (hProper : ProperName n)
    (hFits : (dir.join ⟨n⟩).text.utf8ByteSize < pathLimit) :
    (dir.join ⟨n⟩).refusal? n = none ↔ Usable n :=
  Path.refusal?_join_iff (locate_eq_ok_iff.mp h.located).1 hProper hFits

/-- A directory in a listed one is listed if its name is usable. -/
theorem Lists.join (h : fs.Lists dir l) (hProper : ProperName n)
    (hDir : fs.isDirectory (n :: l) = true)
    (hFits : (dir.join ⟨n⟩).text.utf8ByteSize < pathLimit) (hUsable : Usable n) :
    fs.Lists (dir.join ⟨n⟩) (n :: l) := by
  obtain ⟨mode, hEntry⟩ := exists_directory hDir
  have hAccepted := (h.refusal?_join_iff hProper hFits).mpr hUsable
  refine ⟨(h.opens.seat hProper).locate hAccepted fun _ target hLink => ?_, hDir⟩
  cases hEntry.symm.trans hLink

/-- A path in a listed directory that leads somewhere has a usable name. -/
theorem Lists.usable (h : fs.Lists dir l) (hProper : ProperName n)
    (hFits : (dir.join ⟨n⟩).text.utf8ByteSize < pathLimit) {followLast : Bool} {l' : Location}
    (hLocated : fs.locate followLast (dir.join ⟨n⟩) = .ok l') : Usable n := by
  rw [← h.refusal?_join_iff hProper hFits]
  by_contra hRefused
  obtain ⟨cause, hRefused⟩ := Option.ne_none_iff_exists'.mp hRefused
  rw [(h.opens.seat hProper).locate_of_refusal hRefused] at hLocated
  cases hLocated

/-- A link in a listed directory is seen to be one if its name is usable. -/
theorem Lists.noLink_iff (h : fs.Lists dir l) (hProper : ProperName n)
    (hFits : (dir.join ⟨n⟩).text.utf8ByteSize < pathLimit) {x : Entry}
    (hEntry : fs.lookup? (n :: l) = some x) :
    (∀ s, fs.linkStatus (dir.join ⟨n⟩) = .ok s → s.kind ≠ .link) ↔
      (Usable n → x.status.kind ≠ .link) := by
  constructor
  · intro hSeen hUsable
    have hAccepted := (h.refusal?_join_iff hProper hFits).mpr hUsable
    exact hSeen _ ((h.opens.seat hProper).linkStatus hAccepted hEntry)
  · intro hPlain s hStatus
    obtain ⟨l', y, hLocated, hThere, rfl⟩ := exists_place hStatus
    have hUsable := h.usable hProper hFits hLocated
    have hAccepted := (h.refusal?_join_iff hProper hFits).mpr hUsable
    have hStatus' := (h.opens.seat hProper).linkStatus hAccepted hEntry
    rw [← Except.ok.inj (hStatus'.symm.trans hStatus)]
    exact hPlain hUsable

/-- At the root stands a real directory, and no path to anything below it reaches the limit of the
system. -/
structure Hosts (fs : FileSystem) (root : Path) (l : Location) : Prop where
  located   : fs.locate false root = .ok l
  directory : fs.isDirectory l = true
  fits      : ∀ names e, fs.lookup? (l.below names) = some e →
    (root.below names).text.utf8ByteSize < pathLimit

/-- The same entries stand below the two places. -/
def SameBelow (fs fs' : FileSystem) (l l' : Location) : Prop :=
  ∀ n names, fs'.lookup? (l'.below (n :: names)) = fs.lookup? (l.below (n :: names))

theorem SameBelow.symm {fs' : FileSystem} {l' : Location} (h : SameBelow fs fs' l l') :
    SameBelow fs' fs l' l :=
  fun n names => (h n names).symm

theorem SameBelow.lookup?_concat {fs' : FileSystem} {l' : Location} (h : SameBelow fs fs' l l')
    (front : List String) (n : String) :
    fs'.lookup? (l'.below (front ++ [n])) = fs.lookup? (l.below (front ++ [n])) := by
  cases front with
  | nil => exact h n []
  | cons m rest => exact h m (rest ++ [n])

theorem SameBelow.isDirectory {fs' : FileSystem} {l' : Location} (h : SameBelow fs fs' l l')
    (hHere : fs.isDirectory l = true) (hThere : fs'.isDirectory l' = true) (names : List String) :
    fs'.isDirectory (l'.below names) = fs.isDirectory (l.below names) := by
  cases names with
  | nil => exact hThere.trans hHere.symm
  | cons n rest => rw [FileSystem.isDirectory, FileSystem.isDirectory, h n rest]

end FileSystem

end LicenseAudit
