import LicenseAudit.FileSystem.Operations
import LicenseAudit.Proofs.FileSystem.Seat
import LicenseAudit.Proofs.Increasing
import Mathlib.Data.String.Basic

/-!
# File systems that differ in file contents only

Everything that a walk asks of a file system is answered without looking into files. Two
directory trees that differ in file contents only are therefore walked alike.

* `Entry.shape` — an entry without its content;
* `FileSystem.Alike` — the same shapes at the same places;
* `FileSystem.Same` — the same entries at the same places.

## Results

* `Alike.list` — directories are listed alike.
* `Alike.status`, `Alike.linkStatus` — entries have the same status.
-/

namespace LicenseAudit

/-- An entry without its content. -/
def Entry.shape : Entry → Entry
  | file _ mode => file [] mode
  | e => e

@[simp]
theorem Entry.status_shape (e : Entry) : e.shape.status = e.status := by
  cases e <;> rfl

/-- What is no file is all shape. -/
theorem Entry.eq_of_shape {e e' : Entry} (hOther : ∀ content mode, e ≠ .file content mode)
    (hShape : e'.shape = e.shape) : e' = e := by
  cases e with
  | file content mode => exact absurd rfl (hOther content mode)
  | directory | link => cases e' <;> first | exact hShape | cases hShape

namespace FileSystem

-- ---------------------------------------------------------------------------
-- Entries of a directory
-- ---------------------------------------------------------------------------

theorem mem_children {fs : FileSystem} {dir : Location} {n : String} {e : Entry} :
    (n, e) ∈ fs.children dir ↔ (n :: dir, e) ∈ fs.entries := by
  rw [children, List.mem_mergeSort, List.mem_filterMap]
  constructor
  · rintro ⟨⟨l, e'⟩, hMem, hChild⟩
    cases l with
    | nil => cases hChild
    | cons n' dir' =>
      simp only at hChild
      split at hChild
      · rename_i hDir
        cases hChild
        exact hDir ▸ hMem
      · cases hChild
  · intro hMem
    exact ⟨(n :: dir, e), hMem, by simp⟩

/-- The entries of a directory come in the order of their names, which are all different. -/
theorem increasing_children {fs : FileSystem} (hTree : fs.WellFormed) (dir : Location) :
    (fs.children dir).Pairwise fun a b => a.1 < b.1 := by
  refine increasing_mergeSort (fun a b => decide_eq_true_iff) ?_
  rw [List.pairwise_filterMap]
  have hDistinct := hTree.distinct
  rw [List.Nodup, List.pairwise_map] at hDistinct
  refine hDistinct.imp ?_
  rintro ⟨l, e⟩ ⟨l', e'⟩ hOther c hc c' hc' hName
  -- two entries of one directory under one name stand at one place
  cases l with
  | nil => cases hc
  | cons n dir₁ =>
    cases l' with
    | nil => cases hc'
    | cons n' dir₂ =>
      simp only [Option.ite_none_right_eq_some, Option.some.injEq] at hc hc'
      obtain ⟨rfl, rfl⟩ := hc
      obtain ⟨rfl, rfl⟩ := hc'
      exact hOther (congrArg (· :: dir₂) hName)

theorem WellFormed.mem_children_iff {fs : FileSystem} (hTree : fs.WellFormed) {dir : Location}
    {n : String} {e : Entry} : (n, e) ∈ fs.children dir ↔ fs.lookup? (n :: dir) = some e := by
  rw [mem_children, hTree.lookup?_eq_some_iff (List.cons_ne_nil n dir)]

-- ---------------------------------------------------------------------------
-- Alike file systems
-- ---------------------------------------------------------------------------

/-- The file systems differ in file contents only. -/
structure Alike (fs fs' : FileSystem) : Prop where
  start  : fs'.workingDirectory = fs.workingDirectory
  shapes : ∀ l, (fs'.lookup? l).map Entry.shape = (fs.lookup? l).map Entry.shape

variable {fs fs' : FileSystem}

/-- Nothing stands at a place in both, or entries of the same shape. -/
theorem Alike.lookup_cases (h : Alike fs fs') (l : Location) :
    (fs.lookup? l = none ∧ fs'.lookup? l = none) ∨
      ∃ e e', fs.lookup? l = some e ∧ fs'.lookup? l = some e' ∧ e'.shape = e.shape := by
  have hShape := h.shapes l
  cases hHere : fs.lookup? l with
  | none =>
    rw [hHere, Option.map_none, Option.map_eq_none_iff] at hShape
    exact Or.inl ⟨rfl, hShape⟩
  | some e =>
    rw [hHere, Option.map_some, Option.map_eq_some_iff] at hShape
    obtain ⟨e', hThere, hSame⟩ := hShape
    exact Or.inr ⟨e, e', rfl, hThere, hSame⟩

theorem Alike.isDirectory (h : Alike fs fs') (l : Location) :
    fs'.isDirectory l = fs.isDirectory l := by
  unfold FileSystem.isDirectory
  obtain ⟨hHere, hThere⟩ | ⟨e, e', hHere, hThere, hShape⟩ := h.lookup_cases l
  · rw [hHere, hThere]
  · rw [hHere, hThere]
    cases e <;> cases e' <;> simp_all [Entry.shape, Entry.isDirectory]

theorem Alike.walkWithin (h : Alike fs fs') (followLast : Bool) (k : Nat) (here : Location)
    (steps : List String) :
    fs'.walkWithin followLast k here steps = fs.walkWithin followLast k here steps := by
  induction k using Nat.strongRecOn generalizing here steps with
  | ind k ihLinks =>
    induction steps generalizing here with
    | nil => rw [walkWithin_nil, walkWithin_nil]
    | cons name rest ih =>
      rw [walkWithin_cons, walkWithin_cons, h.isDirectory, ih, ih, ih]
      obtain ⟨hHere, hThere⟩ | ⟨e, e', hHere, hThere, hShape⟩ := h.lookup_cases (name :: here)
      · rw [hHere, hThere]
      · rw [hHere, hThere]
        cases e with
        | link target =>
          cases e' with
          | link target' =>
            obtain rfl : target' = target := by simpa [Entry.shape] using hShape
            cases k with
            | zero => rfl
            | succ links => simp only [ihLinks links (Nat.lt_succ_self links)]
          | file | directory => simp [Entry.shape] at hShape
        | file | directory => cases e' <;> simp_all [Entry.shape]

theorem Alike.locate (h : Alike fs fs') (followLast : Bool) (p : Path) :
    fs'.locate followLast p = fs.locate followLast p := by
  rw [FileSystem.locate, FileSystem.locate, h.walkWithin, FileSystem.start, FileSystem.start,
    h.start]

-- ---------------------------------------------------------------------------
-- Looking at alike file systems
-- ---------------------------------------------------------------------------

/-- A path is refused alike, or leads to one place where entries of the same shape stand. -/
theorem Alike.find_cases (h : Alike fs fs') (followLast : Bool) (p : Path) :
    (∃ cause, fs.find followLast p = .error cause ∧ fs'.find followLast p = .error cause) ∨
    ∃ l e e', fs.find followLast p = .ok (l, e) ∧ fs'.find followLast p = .ok (l, e') ∧
      e'.shape = e.shape := by
  rw [FileSystem.find, FileSystem.find, h.locate]
  cases fs.locate followLast p with
  | error cause => exact Or.inl ⟨cause, rfl, rfl⟩
  | ok l =>
    simp only [bind, Except.bind]
    obtain ⟨hHere, hThere⟩ | ⟨e, e', hHere, hThere, hShape⟩ := h.lookup_cases l
    · exact Or.inl ⟨.noEntry, by rw [hHere], by rw [hThere]⟩
    · exact Or.inr ⟨l, e, e', by rw [hHere], by rw [hThere], hShape⟩

theorem status_eq_of_shape {e e' : Entry} (hShape : e'.shape = e.shape) :
    e'.status = e.status := by
  rw [← e'.status_shape, hShape, e.status_shape]

theorem Alike.status (h : Alike fs fs') (p : Path) : fs'.status p = fs.status p := by
  rw [FileSystem.status, FileSystem.status]
  obtain ⟨cause, hHere, hThere⟩ | ⟨l, e, e', hHere, hThere, hShape⟩ := h.find_cases true p
  · rw [hHere, hThere]
  · rw [hHere, hThere]
    exact congrArg Except.ok (status_eq_of_shape hShape)

theorem Alike.linkStatus (h : Alike fs fs') (p : Path) :
    fs'.linkStatus p = fs.linkStatus p := by
  rw [FileSystem.linkStatus, FileSystem.linkStatus]
  obtain ⟨cause, hHere, hThere⟩ | ⟨l, e, e', hHere, hThere, hShape⟩ := h.find_cases false p
  · rw [hHere, hThere]
  · rw [hHere, hThere]
    exact congrArg Except.ok (status_eq_of_shape hShape)

/-- Directories have entries of the same names and kinds. -/
theorem Alike.children (h : Alike fs fs') (hTree : fs.WellFormed) (hTree' : fs'.WellFormed)
    (dir : Location) :
    ((fs'.children dir).map fun c => (c.1, c.2.status.kind)) =
      (fs.children dir).map fun c => (c.1, c.2.status.kind) := by
  have hIncreasing : ∀ {f : FileSystem}, f.WellFormed →
      ((f.children dir).map fun c => (c.1, c.2.status.kind)).Pairwise fun a b => a.1 < b.1 :=
    fun hf => List.pairwise_map.mpr (increasing_children hf dir)
  have hMem : ∀ {f : FileSystem}, f.WellFormed → ∀ (n : String) (k : EntryKind),
      (n, k) ∈ (f.children dir).map (fun c => (c.1, c.2.status.kind)) ↔
        ∃ e, (f.lookup? (n :: dir)).map Entry.shape = some e ∧ e.status.kind = k := by
    intro f hf n k
    have hPlace : ∀ e, f.lookup? (n :: dir) = some e ↔ (n, e) ∈ f.children dir :=
      fun e => hf.mem_children_iff.symm
    constructor
    · intro hIn
      obtain ⟨⟨n', e⟩, hChild, hSame⟩ := List.mem_map.mp hIn
      cases hSame
      exact ⟨e.shape, by rw [(hPlace e).mpr hChild]; rfl, by rw [Entry.status_shape]⟩
    · rintro ⟨e, hEntry, rfl⟩
      obtain ⟨e', hFound, rfl⟩ := Option.map_eq_some_iff.mp hEntry
      exact List.mem_map.mpr ⟨(n, e'), (hPlace e').mp hFound, by rw [Entry.status_shape]⟩
  refine eq_of_increasing (hIncreasing hTree') (hIncreasing hTree) ?_
  rintro ⟨n, k⟩
  rw [hMem hTree', hMem hTree, h.shapes]

/-- Directories are listed alike. -/
theorem Alike.list (h : Alike fs fs') (hTree : fs.WellFormed) (hTree' : fs'.WellFormed)
    (p : Path) : fs'.list p = fs.list p := by
  unfold FileSystem.list
  obtain ⟨cause, hHere, hThere⟩ | ⟨l, e, e', hHere, hThere, hShape⟩ := h.find_cases true p
  · rw [hHere, hThere]
    rfl
  · rw [hHere, hThere]
    have hChildren := h.children hTree hTree' l
    cases e <;> cases e' <;> simp_all [Entry.shape, bind, Except.bind]

-- ---------------------------------------------------------------------------
-- The same entries
-- ---------------------------------------------------------------------------

/-- The same entries stand at the same places, and relative paths start from the same one. -/
structure Same (fs fs' : FileSystem) : Prop where
  start   : fs'.workingDirectory = fs.workingDirectory
  entries : ∀ l, fs'.lookup? l = fs.lookup? l

theorem Same.refl (fs : FileSystem) : fs.Same fs := ⟨rfl, fun _ => rfl⟩

theorem Same.symm (h : fs.Same fs') : fs'.Same fs := ⟨h.start.symm, fun l => (h.entries l).symm⟩

theorem Same.trans {fs'' : FileSystem} (h : fs.Same fs') (h' : fs'.Same fs'') : fs.Same fs'' :=
  ⟨h'.start.trans h.start, fun l => (h'.entries l).trans (h.entries l)⟩

theorem Same.alike (h : fs.Same fs') : fs.Alike fs' := ⟨h.start, fun l => by rw [h.entries]⟩

theorem Same.locateParent (h : fs.Same fs') (p : Path) :
    fs'.locateParent p = fs.locateParent p := by
  have hStart : fs'.start p = fs.start p := by rw [FileSystem.start, h.start, FileSystem.start]
  simp only [FileSystem.locateParent, hStart, h.alike.walkWithin, h.alike.isDirectory]

end FileSystem

end LicenseAudit
