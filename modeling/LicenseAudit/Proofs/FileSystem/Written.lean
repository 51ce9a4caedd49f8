import LicenseAudit.Proofs.FileSystem.Changes
import LicenseAudit.Proofs.FileSystem.Trees

/-!
# What is written can be read

A write puts a file where its path leads to. The path leads there afterwards, too, because no
directory and no link is touched, so that the file can be read again under the same path.

## Results

* `walkWithin_keeps` — a path to a place leads there also afterwards.
* `read_of_write` — what is written can be read.
-/

namespace LicenseAudit.FileSystem

variable {fs fs' : FileSystem} {p : Path} {content : Bytes}

/-- A path to a place leads there afterwards, if directories and links are kept and the place is as
it was or a file has come to stand there. -/
theorem walkWithin_keeps (hKeeps : Keeps fs fs') {l : Location}
    (hEnd : fs'.lookup? l = fs.lookup? l ∨
      ∃ content mode, fs'.lookup? l = some (.file content mode)) {followLast : Bool} {k : Nat}
    {here : Location} {steps : List String}
    (h : fs.walkWithin followLast k here steps = .ok l) :
    fs'.walkWithin followLast k here steps = .ok l := by
  induction k using Nat.strongRecOn generalizing here steps with
  | ind k ihLinks =>
    induction steps generalizing here with
    | nil => rwa [walkWithin_nil] at h ⊢
    | cons name rest ih =>
      obtain ⟨hDir, hStep⟩ := firstStep_of_ok h
      have hDir' := hKeeps.ways.isDirectory hDir
      have hReached : Nameable name → l = name :: here →
          (∀ target, fs.lookup? l = some (.link target) → followLast = false) →
          fs'.walkWithin followLast k here [name] = .ok l := by
        intro hName hPlace hKept
        rw [walkWithin_named hDir' hName, ← hPlace]
        rcases hEnd with hSame | ⟨content, mode, hFile⟩
        · rw [hSame]
          cases hEntry : fs.lookup? l with
          | none => rfl
          | some e =>
            cases e with
            | link target =>
              rw [hKept target hEntry]
              rfl
            | file | directory => exact walkWithin_nil ..
        · rw [hFile]
          exact walkWithin_nil ..
      cases hStep with
      | stay hRest =>
        rw [walkWithin_cons, hDir']
        exact ih hRest
      | up hRest =>
        rw [walkWithin_cons, hDir']
        exact ih hRest
      | vacant hName hVacant hPlace =>
        refine hReached hName hPlace fun target hLink => ?_
        rw [hPlace, hVacant] at hLink
        cases hLink
      | linked hName hKeep hPlace => exact hReached hName hPlace fun _ _ => hKeep
      | @enter _ _ _ e hName hEntry hPlain hRest =>
        cases rest with
        | nil =>
          rw [walkWithin_nil] at hRest
          have hPlace := (Except.ok.inj hRest).symm
          refine hReached hName hPlace fun target hLink => ?_
          rw [hPlace, hEntry] at hLink
          obtain rfl := Option.some.inj hLink
          cases hPlain
        | cons next more =>
          -- the way goes on, so that it is a directory that stands here
          obtain ⟨mode', hHere⟩ := exists_directory (firstStep_of_ok hRest).1
          rw [walkWithin_named hDir' hName, hKeeps.ways.directories hHere]
          exact ih hRest
      | @follow links _ _ target hName hEntry hFollow hRest =>
        have hLater : (rest.isEmpty && !followLast) = false := by
          cases rest with
          | nil => simp [hFollow rfl]
          | cons next others => rfl
        have hEntry' := hKeeps.entries hEntry fun _ _ hOther => by cases hOther
        rw [walkWithin_named hDir' hName, hEntry']
        simp only [hLater, Bool.false_eq_true, if_false]
        exact ihLinks links (Nat.lt_succ_self links) hRest

/-- A place that a path leads to is where it leads afterwards. -/
theorem locate_keeps (hKeeps : Keeps fs fs') {l : Location}
    (hEnd : fs'.lookup? l = fs.lookup? l ∨
      ∃ content mode, fs'.lookup? l = some (.file content mode)) {followLast : Bool}
    (h : fs.locate followLast p = .ok l) : fs'.locate followLast p = .ok l := by
  obtain ⟨hText, hWalk⟩ := locate_eq_ok_iff.mp h
  have hStart : fs'.start p = fs.start p := by rw [start, start, hKeeps.start]
  exact locate_eq_ok_iff.mpr ⟨hText, hStart ▸ walkWithin_keeps hKeeps hEnd hWalk⟩

/-- Where something can be written a file stands, or nothing. -/
theorem free_of_write {l : Location} (h : fs.write p content = .ok fs')
    (hLocate : fs.locate true p = .ok l) :
    ∀ e, fs.lookup? l = some e → ∃ old mode, e = .file old mode := by
  obtain ⟨l', hLocate', hCases⟩ := write_eq_ok h
  obtain rfl : l' = l := Except.ok.inj (hLocate'.symm.trans hLocate)
  intro e hEntry
  rcases hCases with ⟨hVacant, -⟩ | ⟨old, mode, hOld, -⟩
  · cases hVacant.symm.trans hEntry
  · exact ⟨old, mode, (Option.some.inj (hOld.symm.trans hEntry)).symm⟩

/-- What is written stands where its path leads to, and nothing else changes. -/
theorem find_of_write (h : fs.write p content = .ok fs') :
    ∃ l mode, l ≠ [] ∧ fs.locate true p = .ok l ∧ fs' = fs.put l (.file content mode) ∧
      fs'.find true p = .ok (l, .file content mode) := by
  obtain ⟨l, hLocate, hPut⟩ := write_eq_ok h
  have hFile := free_of_write h hLocate
  have hBelow : l ≠ [] := by
    rintro rfl
    obtain ⟨_, _, hRoot⟩ := hFile (.directory directoryMode) rfl
    cases hRoot
  obtain ⟨mode, rfl⟩ : ∃ mode, fs' = fs.put l (.file content mode) := by
    rcases hPut with ⟨-, rfl⟩ | ⟨old, mode, -, rfl⟩ <;> exact ⟨_, rfl⟩
  have hAlters : Alters (fun _ => True) fs (fs.put l (.file content mode)) :=
    alters_put hBelow hFile _ trivial
  have hThere : (fs.put l (.file content mode)).lookup? l = some (.file content mode) := by
    rw [lookup?_put fs hBelow, if_pos rfl]
  have hAgain := locate_keeps hAlters.keeps (Or.inr ⟨_, _, hThere⟩) hLocate
  exact ⟨l, mode, hBelow, hLocate, rfl, find_eq_ok_iff.mpr ⟨hAgain, hThere⟩⟩

/-- **What is written can be read.** -/
theorem read_of_write (h : fs.write p content = .ok fs') : fs'.read p = .ok content := by
  obtain ⟨l, mode, -, -, -, hFind⟩ := find_of_write h
  rw [read, hFind]
  rfl

-- ---------------------------------------------------------------------------
-- Writes of different contents
-- ---------------------------------------------------------------------------

/-- What differs at most in the content of the file at a path. -/
structure SameBut (p : Path) (content content' : Bytes) (fs fs' : FileSystem) : Prop where
  start   : fs'.workingDirectory = fs.workingDirectory
  entries : ∀ l, fs'.lookup? l = fs.lookup? l ∨ ∃ mode,
    fs.find true p = .ok (l, .file content mode) ∧ fs'.find true p = .ok (l, .file content' mode)

/-- Where the same entries stand, a write is refused for the same reason, or made at the same place
whatever is written. -/
theorem Same.write_places (h : fs.Same fs') (p : Path) (content content' : Bytes) :
    (∃ cause, fs.write p content = .error cause ∧ fs'.write p content' = .error cause) ∨
      ∃ l mode, fs.locate true p = .ok l ∧
        fs.write p content = .ok (fs.put l (.file content mode)) ∧
        fs'.write p content' = .ok (fs'.put l (.file content' mode)) := by
  simp only [write, h.locateParent, h.alike.locate]
  by_cases hSlash : (p.endsWithSeparator && (fs.locateParent p).isOk) = true
  · exact Or.inl ⟨.isDirectory, by rw [if_pos hSlash]; rfl, by rw [if_pos hSlash]; rfl⟩
  · rw [if_neg hSlash, if_neg hSlash]
    cases hLocate : fs.locate true p with
    | error cause => exact Or.inl ⟨cause, rfl, rfl⟩
    | ok l =>
      simp only [bind, Except.bind, h.entries]
      cases fs.lookup? l with
      | none => exact Or.inr ⟨l, fileMode, rfl, rfl, rfl⟩
      | some e =>
        cases e with
        | file old mode => exact Or.inr ⟨l, mode, rfl, rfl, rfl⟩
        | directory mode => exact Or.inl ⟨.isDirectory, rfl, rfl⟩
        | link target => exact Or.inl ⟨.linkLoop, rfl, rfl⟩

/-- Where the same entries stand, whether something can be written does not depend on what it is,
and what stands afterwards differs by the content at most. -/
theorem Same.write_cases (h : fs.Same fs') (p : Path) (content content' : Bytes) :
    (∃ cause, fs.write p content = .error cause ∧ fs'.write p content' = .error cause) ∨
      ∃ after after', fs.write p content = .ok after ∧ fs'.write p content' = .ok after' ∧
        SameBut p content content' after after' := by
  refine (h.write_places p content content').imp id ?_
  rintro ⟨l, mode, hLocate, hWrite, hWrite'⟩
  refine ⟨_, _, hWrite, hWrite', h.start, fun k => ?_⟩
  -- what is found afterwards has been put there
  have hFound : ∀ {f : FileSystem} {c : Bytes}, f.locate true p = .ok l →
      f.write p c = .ok (f.put l (.file c mode)) →
      l ≠ [] ∧ (f.put l (.file c mode)).find true p = .ok (l, .file c mode) := by
    intro f c hPlace hMade
    obtain ⟨l', mode', hBelow, hPlace', hPut, hFind⟩ := find_of_write hMade
    obtain rfl : l' = l := Except.ok.inj (hPlace'.symm.trans hPlace)
    obtain ⟨-, hHere⟩ := find_eq_ok_iff.mp hFind
    rw [lookup?_put f hBelow, if_pos rfl] at hHere
    exact ⟨hBelow, hFind.trans (by rw [Option.some.inj hHere])⟩
  obtain ⟨hBelow, hFind⟩ := hFound hLocate hWrite
  obtain ⟨-, hFind'⟩ := hFound ((h.alike.locate true p).trans hLocate) hWrite'
  by_cases hHere : k = l
  · exact Or.inr ⟨mode, hHere ▸ hFind, hHere ▸ hFind'⟩
  · left
    rw [lookup?_put fs hBelow, lookup?_put fs' hBelow, if_neg hHere, if_neg hHere, h.entries]

end LicenseAudit.FileSystem
