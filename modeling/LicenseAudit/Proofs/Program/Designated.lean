import LicenseAudit.Proofs.FileSystem.Written
import LicenseAudit.Proofs.Program.Around

/-!
# What a replacement affects

A path designates the file that it leads to, itself or through links. A replacement writes through
what stands at the temporary path and moves that over what stands at the path itself. Where neither
is a link this updates the file that the path designates, and nothing else but the temporary file
differs. A link at the path is replaced by a file, and the file that it leads to keeps its content;
a link at the temporary path is written through, and moved over the path.

* `FileSystem.Moves` — the end of a replacement that succeeds;
* `Program.AffectsOnly` — the file that the path designates is updated, and it alone.

## Results

* `run_replace_cases` — a replacement leaves at most the temporary path changed, or moves.
* `affectsOnly_iff` — when a replacement affects only the file that the path designates.
-/

namespace LicenseAudit

variable {fs s : FileSystem} {p q target : Path} {dir j l : Location} {n m : String}
  {old content : Bytes} {mode tag : Nat}

namespace FileSystem

-- ---------------------------------------------------------------------------
-- Moving what was written
-- ---------------------------------------------------------------------------

/-- The content was written to where the temporary path leads to, and what stands at that path was
moved to the other name: the file itself, or a link to where it was written. -/
inductive Moves (fs : FileSystem) (q : Path) (dir : Location) (n m : String) (content : Bytes)
    (mode : Nat) (s : FileSystem) : Prop where
  | file (hFits : q.refusal? m = none)
      (hFree : ∀ e, fs.lookup? (m :: dir) = some e → ∃ old bits, e = .file old bits)
      (hLookup : ∀ k, s.lookup? k = if k = n :: dir then some (.file content mode)
        else if k = m :: dir then none else fs.lookup? k) : Moves fs q dir n m content mode s
  | link {target : Path} {j : Location} (hFits : q.refusal? m = none)
      (hLink : fs.lookup? (m :: dir) = some (.link target)) (hLocate : fs.locate true q = .ok j)
      (hLookup : ∀ k, s.lookup? k = if k = n :: dir then some (.link target)
        else if k = m :: dir then none
        else if k = j then some (.file content mode) else fs.lookup? k) :
      Moves fs q dir n m content mode s

/-- What can be written through is not refused. -/
theorem Seat.fits_of_locate {followLast : Bool} (h : fs.Seat q dir m)
    (hLocate : fs.locate followLast q = .ok j) : q.refusal? m = none := by
  cases hRefusal : q.refusal? m with
  | none => rfl
  | some cause => cases (h.locate_of_refusal hRefusal followLast).symm.trans hLocate

/-- A path leads to its own place, or a link stands there. -/
theorem Seat.eq_or_link (h : fs.Seat q dir m) (hLocate : fs.locate true q = .ok j) :
    j = m :: dir ∨ ∃ target, fs.lookup? (m :: dir) = some (.link target) := by
  by_cases hLink : ∃ target, fs.lookup? (m :: dir) = some (.link target)
  · exact Or.inr hLink
  · have hPlace : fs.locate true q = .ok (m :: dir) :=
      h.locate (h.fits_of_locate hLocate) fun _ target hHere => hLink ⟨target, hHere⟩
    exact Or.inl (Except.ok.inj (hLocate.symm.trans hPlace))

/-- No link stands where a file does, or nothing. -/
theorem Seat.linkAt?_eq_none (h : fs.Seat q dir m) (hFits : q.refusal? m = none)
    (hFree : ∀ e, fs.lookup? (m :: dir) = some e → ∃ old bits, e = .file old bits) :
    fs.linkAt? q = none := by
  rw [h.linkAt?_eq hFits]
  cases hEntry : fs.lookup? (m :: dir) with
  | none => rfl
  | some e =>
    obtain ⟨old, bits, rfl⟩ := hFree e hEntry
    rfl

/-- What is written under a name, with the given permission bits, can be moved to a sibling that is
no directory. -/
theorem exists_moves (hSeat : fs.Seat p dir n) (hFits : p.refusal? n = none)
    (hSpare : fs.Seat q dir m) (hOther : m ≠ n) (hPlain : fs.isDirectory (n :: dir) = false)
    (hWrite : fs.write q content = .ok s) (mode : Nat) :
    ∃ s₁ s₂, s.setMode q mode = .ok s₁ ∧ s₁.rename q p = .ok s₂ ∧
      s₂.workingDirectory = fs.workingDirectory ∧ fs.Moves q dir n m content mode s₂ := by
  obtain ⟨j, bits, hBelow, hLocate, rfl, hFound⟩ := find_of_write hWrite
  have hFree := free_of_write hWrite hLocate
  have hFits' := hSpare.fits_of_locate hLocate
  have hMode : (fs.put j (.file content bits)).setMode q mode =
      .ok (fs.put j (.file content mode)) := by
    rw [FileSystem.setMode, hFound]
    exact congrArg Except.ok (put_put ..)
  have hWays := keepsWays_put hBelow hFree (.file content mode)
  have hLookup := lookup?_put fs hBelow (.file content mode)
  have hPlain' : (fs.put j (.file content mode)).isDirectory (n :: dir) = false := by
    by_cases hPlace : n :: dir = j
    · rw [FileSystem.isDirectory, hLookup, if_pos hPlace]
      rfl
    · rw [FileSystem.isDirectory, hLookup, if_neg hPlace]
      exact hPlain
  -- whatever stands at the temporary path is moved
  have hMove : ∀ e : Entry, e.isDirectory = false →
      (fs.put j (.file content mode)).lookup? (m :: dir) = some e →
      (fs.put j (.file content mode)).rename q p =
        .ok (((fs.put j (.file content mode)).erase (m :: dir)).put (n :: dir) e) := by
    intro e hKind hEntry
    exact (hSeat.keeps hWays).rename (hSpare.keeps hWays) hFits hFits' hOther hPlain' hKind hEntry
  have hAfter : ∀ (e : Entry) (k : Location),
      (((fs.put j (.file content mode)).erase (m :: dir)).put (n :: dir) e).lookup? k =
        if k = n :: dir then some e else if k = m :: dir then none
        else if k = j then some (.file content mode) else fs.lookup? k := by
    intro e k
    rw [lookup?_put _ (List.cons_ne_nil n dir), lookup?_erase _ (List.cons_ne_nil m dir), hLookup]
  by_cases hOwn : j = m :: dir
  · subst hOwn
    have hEntry := (hLookup (m :: dir)).trans (if_pos rfl)
    refine ⟨_, _, hMode, hMove _ rfl hEntry, rfl, .file hFits' hFree fun k => ?_⟩
    rw [hAfter]
    split
    · rfl
    · split <;> rfl
  · obtain ⟨target, hLink⟩ := (hSpare.eq_or_link hLocate).resolve_left hOwn
    have hEntry : (fs.put j (.file content mode)).lookup? (m :: dir) = some (.link target) := by
      rw [hLookup, if_neg (Ne.symm hOwn), hLink]
    exact ⟨_, _, hMode, hMove _ rfl hEntry, rfl, .link hFits' hLink hLocate (hAfter _)⟩

end FileSystem

namespace Program

open FileSystem (Moves)

/-- What the removal of a file leaves differs at its own place only. -/
theorem lookup?_perform_remove {k : Location} (hOther : fs.locate false q ≠ .ok k) :
    (fs.perform (.remove q)).2.lookup? k = fs.lookup? k := by
  rw [FileSystem.perform_remove]
  cases hRemove : fs.remove q with
  | error refusal => rfl
  | ok s =>
    obtain ⟨dir, m, e, hParent, -, -, ⟨hOpen, hShort⟩, rfl⟩ := FileSystem.remove_eq_ok hRemove
    obtain ⟨hText, hSeat⟩ := FileSystem.seat_of_locateParent hParent hOpen
    have hPlace := hSeat.locate_own (FileSystem.refusal?_eq_none_iff.mpr ⟨hText, hShort⟩)
    show (fs.erase (m :: dir)).lookup? k = fs.lookup? k
    rw [FileSystem.lookup?_erase fs (List.cons_ne_nil m dir), if_neg]
    rintro rfl
    exact hOther hPlace

/-- Where nothing can be written the temporary path is cleared. -/
theorem run_replace_of_refused {cause : IoError} (hStatus : fs.status p = .ok ⟨.file, mode⟩)
    (hWrite : fs.write (p.temporarySibling tag) content = .error cause) :
    (replace tag p content).run fs =
      (.error cause, (fs.perform (.remove (p.temporarySibling tag))).2) := by
  have hWritten : (write (p.temporarySibling tag) content).run fs = (.error cause, fs) := by
    rw [write, run_ask, FileSystem.perform_write, FileSystem.change_error hWrite]
  have hRemoved : ((remove (p.temporarySibling tag)).run fs).2 =
      (fs.perform (.remove (p.temporarySibling tag))).2 := by
    rw [remove, run_ask]
  simp only [replace, run_bind, run_status, hStatus, replaceVia, installTemporary, hWritten,
    run_pure, hRemoved]

/-- What is written, and takes the permission bits, is moved. -/
theorem run_replace_of_moved {s₁ s₂ : FileSystem} (hStatus : fs.status p = .ok ⟨.file, mode⟩)
    (hWrite : fs.write (p.temporarySibling tag) content = .ok s)
    (hMode : s.setMode (p.temporarySibling tag) mode = .ok s₁)
    (hRename : s₁.rename (p.temporarySibling tag) p = .ok s₂) :
    (replace tag p content).run fs = (.ok (), s₂) := by
  have hWritten : (write (p.temporarySibling tag) content).run fs = (.ok (), s) := by
    rw [write, run_ask, FileSystem.perform_write, FileSystem.change_ok hWrite]
  have hSet : (setMode (p.temporarySibling tag) mode).run s = (.ok (), s₁) := by
    rw [setMode, run_ask, FileSystem.perform_setMode, FileSystem.change_ok hMode]
  have hMoved : (rename (p.temporarySibling tag) p).run s₁ = (.ok (), s₂) := by
    rw [rename, run_ask, FileSystem.perform_rename, FileSystem.change_ok hRename]
  simp only [replace, run_bind, run_status, hStatus, replaceVia, installTemporary, hWritten, hSet,
    hMoved, run_pure]

/-- **A replacement changes at most what stands at the temporary path, or moves it.** It succeeds
just in the second case. -/
theorem run_replace_cases (hSeat : fs.Seat p dir n) (hFits : p.refusal? n = none)
    (hPlain : fs.isDirectory (n :: dir) = false) (hStatus : fs.status p = .ok ⟨.file, mode⟩)
    (tag : Nat) (content : Bytes) :
    (∃ cause s, (replace tag p content).run fs = (.error cause, s) ∧
      ∀ k, fs.locate false (p.temporarySibling tag) ≠ .ok k → s.lookup? k = fs.lookup? k) ∨
    ∃ s, (replace tag p content).run fs = (.ok (), s) ∧
      s.workingDirectory = fs.workingDirectory ∧
      fs.Moves (p.temporarySibling tag) dir n (temporaryName n tag) content mode s := by
  cases hWrite : fs.write (p.temporarySibling tag) content with
  | error cause =>
    refine Or.inl ⟨cause, _, run_replace_of_refused hStatus hWrite, fun k hOther => ?_⟩
    exact lookup?_perform_remove hOther
  | ok s =>
    obtain ⟨s₁, s₂, hMode, hRename, hStart, hMoves⟩ := FileSystem.exists_moves hSeat hFits
      (hSeat.temporarySibling tag) (temporaryName_ne n tag) hPlain hWrite mode
    exact Or.inr ⟨s₂, run_replace_of_moved hStatus hWrite hMode hRename, hStart, hMoves⟩

-- ---------------------------------------------------------------------------
-- The file that the path designates
-- ---------------------------------------------------------------------------

/-- Only the file that the path designates is affected. If the replacement has succeeded, this file
has the new content, with the permission bits that it had, and it is read at the path. However it
has ended, every entry but this file and what stands at the temporary path is kept, above all a link
at the path. -/
structure AffectsOnly (tag : Nat) (p : Path) (content : Bytes) (l : Location) (mode : Nat)
    (fs : FileSystem) (answer : Except IoError Unit) (s : FileSystem) : Prop where
  read    : answer = .ok () → s.read p = .ok content
  updated : answer = .ok () → s.lookup? l = some (.file content mode)
  rest    : ∀ k, k ≠ l → fs.locate false (p.temporarySibling tag) ≠ .ok k →
    s.lookup? k = fs.lookup? k
  link    : ∀ k target, fs.find false p = .ok (k, .link target) →
    s.lookup? k = some (.link target)

/-- A link at the path is one of the entries that are kept. -/
theorem link_of_rest (hSeat : fs.Seat p dir n) (hFits : p.refusal? n = none)
    (hFile : fs.lookup? l = some (.file old mode))
    (hRest : ∀ k, k ≠ l → fs.locate false (p.temporarySibling tag) ≠ .ok k →
      s.lookup? k = fs.lookup? k) (k : Location) (target : Path)
    (hFind : fs.find false p = .ok (k, .link target)) : s.lookup? k = some (.link target) := by
  obtain ⟨hLocate, hLink⟩ := FileSystem.find_eq_ok_iff.mp hFind
  obtain rfl : k = n :: dir := Except.ok.inj (hLocate.symm.trans (hSeat.locate_own hFits))
  refine (hRest _ ?_ fun hHere => ?_).trans hLink
  · rintro rfl
    cases hFile.symm.trans hLink
  · have hSpare := hSeat.temporarySibling tag
    have hOwn := hSpare.locate_own (hSpare.fits_of_locate hHere)
    exact temporaryName_ne n tag (List.cons.inj (Except.ok.inj (hOwn.symm.trans hHere))).1

/-- Moving a file over the file at the path updates this file. -/
theorem affectsOnly_of_file (hSeat : fs.Seat p dir n) (hFits : p.refusal? n = none)
    (hFile : fs.lookup? (n :: dir) = some (.file old mode))
    (hFits' : (p.temporarySibling tag).refusal? (temporaryName n tag) = none)
    (hFree : ∀ e, fs.lookup? (temporaryName n tag :: dir) = some e →
      ∃ old bits, e = .file old bits)
    (hStart : s.workingDirectory = fs.workingDirectory)
    (hLookup : ∀ k, s.lookup? k = if k = n :: dir then some (.file content mode)
      else if k = temporaryName n tag :: dir then none else fs.lookup? k) :
    AffectsOnly tag p content (n :: dir) mode fs (.ok ()) s := by
  have hKeeps : FileSystem.Keeps fs s := by
    refine ⟨hStart, fun {k e} hEntry hOther => ?_⟩
    rw [hLookup, if_neg, if_neg, hEntry]
    · rintro rfl
      obtain ⟨old, bits, rfl⟩ := hFree e hEntry
      exact hOther old bits rfl
    · rintro rfl
      exact hOther old mode (Option.some.inj (hEntry.symm.trans hFile))
  have hNew : s.lookup? (n :: dir) = some (.file content mode) := by rw [hLookup, if_pos rfl]
  have hRest : ∀ k, k ≠ n :: dir → fs.locate false (p.temporarySibling tag) ≠ .ok k →
      s.lookup? k = fs.lookup? k := by
    intro k hOther hElsewhere
    rw [hLookup, if_neg hOther, if_neg]
    rintro rfl
    exact hElsewhere ((hSeat.temporarySibling tag).locate_own hFits')
  exact ⟨fun _ => (hSeat.keeps hKeeps.ways).read hFits hNew, fun _ => hNew, hRest,
    link_of_rest hSeat hFits hFile hRest⟩

/-- Moving a link over a link with the same target changes nothing but the file that both lead
to. -/
theorem affectsOnly_of_link (hSeat : fs.Seat p dir n) (hFits : p.refusal? n = none)
    (hLocate : fs.locate true p = .ok l) (hFile : fs.lookup? l = some (.file old mode))
    (hLink : fs.lookup? (n :: dir) = some (.link target))
    (hFits' : (p.temporarySibling tag).refusal? (temporaryName n tag) = none)
    (hLink' : fs.lookup? (temporaryName n tag :: dir) = some (.link target))
    (hStart : s.workingDirectory = fs.workingDirectory)
    (hLookup : ∀ k, s.lookup? k = if k = n :: dir then some (.link target)
      else if k = temporaryName n tag :: dir then none
      else if k = l then some (.file content mode) else fs.lookup? k) :
    AffectsOnly tag p content l mode fs (.ok ()) s := by
  have hBelow : temporaryName n tag :: dir ≠ [] := List.cons_ne_nil _ _
  have hErase := FileSystem.lookup?_erase fs hBelow
  -- the path leads to the file without the link at the temporary path
  have hAround : (fs.erase (temporaryName n tag :: dir)).locate true p = .ok l := by
    refine hSeat.locate_around hLink hLink' (temporaryName_ne n tag).symm rfl (fun k hOther => ?_)
      hLocate hFile
    rw [hErase, if_neg hOther]
  have hNew : s.lookup? l = some (.file content mode) := by
    rw [hLookup, if_neg, if_neg, if_pos rfl]
    · rintro rfl
      cases hFile.symm.trans hLink'
    · rintro rfl
      cases hFile.symm.trans hLink
  have hKeeps : FileSystem.Keeps (fs.erase (temporaryName n tag :: dir)) s := by
    refine ⟨hStart, fun {k e} hEntry hOther => ?_⟩
    rw [hErase] at hEntry
    split at hEntry
    · cases hEntry
    · rename_i hSpare
      rw [hLookup, if_neg hSpare]
      split
      · rename_i hPlace
        rw [hPlace, hLink] at hEntry
        exact hEntry
      · rw [if_neg, hEntry]
        rintro rfl
        exact hOther old mode (Option.some.inj (hEntry.symm.trans hFile))
  have hThere : s.locate true p = .ok l :=
    FileSystem.locate_keeps hKeeps (Or.inr ⟨_, _, hNew⟩) hAround
  have hRest : ∀ k, k ≠ l → fs.locate false (p.temporarySibling tag) ≠ .ok k →
      s.lookup? k = fs.lookup? k := by
    intro k hOther hElsewhere
    have hSpare : k ≠ temporaryName n tag :: dir := by
      rintro rfl
      exact hElsewhere ((hSeat.temporarySibling tag).locate_own hFits')
    rw [hLookup, if_neg hSpare, if_neg hOther]
    split
    · rename_i hPlace
      rw [hPlace, hLink]
    · rfl
  refine ⟨fun _ => ?_, fun _ => hNew, hRest, link_of_rest hSeat hFits hFile hRest⟩
  rw [FileSystem.read, FileSystem.find_eq_ok_iff.mpr ⟨hThere, hNew⟩]
  rfl

/-- What was moved has affected only the file that the path designates just if links with one target
stand at both paths, or none. -/
theorem affectsOnly_iff_of_moves (hSeat : fs.Seat p dir n) (hFits : p.refusal? n = none)
    (hLocate : fs.locate true p = .ok l) (hFile : fs.lookup? l = some (.file old mode))
    (hStart : s.workingDirectory = fs.workingDirectory)
    (hMoves : fs.Moves (p.temporarySibling tag) dir n (temporaryName n tag) content mode s) :
    AffectsOnly tag p content l mode fs (.ok ()) s ↔
      fs.linkAt? (p.temporarySibling tag) = fs.linkAt? p := by
  have hSpare := hSeat.temporarySibling tag
  have hFind : ∀ {target : Path}, fs.lookup? (n :: dir) = some (.link target) →
      fs.find false p = .ok (n :: dir, .link target) :=
    fun hLink => hSeat.find hFits (fun hFollow => by cases hFollow) hLink
  rw [hSeat.linkAt?_eq hFits]
  rcases hSeat.eq_or_link hLocate with rfl | ⟨target, hLink⟩
  · rw [hFile]
    cases hMoves with
    | file hFits' hFree hLookup =>
      rw [hSpare.linkAt?_eq_none hFits' hFree]
      exact iff_of_true (affectsOnly_of_file hSeat hFits hFile hFits' hFree hStart hLookup) rfl
    | link hFits' hLink' hLocate' hLookup =>
      rw [hSpare.linkAt?_eq hFits', hLink']
      refine iff_of_false (fun h => ?_) (by simp [Entry.target?])
      have hNew := h.updated rfl
      rw [hLookup, if_pos rfl] at hNew
      cases hNew
  · rw [hLink]
    cases hMoves with
    | file hFits' hFree hLookup =>
      rw [hSpare.linkAt?_eq_none hFits' hFree]
      refine iff_of_false (fun h => ?_) (by simp [Entry.target?])
      have hKept := h.link _ _ (hFind hLink)
      rw [hLookup, if_pos rfl] at hKept
      cases hKept
    | @link target' j hFits' hLink' hLocate' hLookup =>
      rw [hSpare.linkAt?_eq hFits', hLink']
      constructor
      · intro h
        have hKept := h.link _ _ (hFind hLink)
        rw [hLookup, if_pos rfl] at hKept
        exact congrArg some (Entry.link.inj (Option.some.inj hKept))
      · intro hSame
        obtain rfl : target' = target := Option.some.inj hSame
        -- both links lead to the file
        obtain ⟨links, hWalk, -⟩ := hSeat.exists_way hLink hLocate
        obtain ⟨links', hWalk', -⟩ := hSpare.exists_way hLink' hLocate'
        obtain rfl := FileSystem.walkWithin_unique hWalk' hWalk
        exact affectsOnly_of_link hSeat hFits hLocate hFile hLink hFits' hLink' hStart hLookup

/-- **When a replacement affects only the file that the path designates.** Let the path lead to a
file, itself or through links, whatever stands at the temporary path. A replacement that fails
affects nothing else; one that succeeds does so exactly if no link stands at the path and at the
temporary path, or links with the same target. -/
theorem affectsOnly_iff (hTree : fs.WellFormed)
    (hFind : fs.find true p = .ok (l, .file old mode)) (tag : Nat) (content : Bytes) :
    AffectsOnly tag p content l mode fs ((replace tag p content).run fs).1
        ((replace tag p content).run fs).2 ↔
      (((replace tag p content).run fs).1 = .ok () →
        fs.linkAt? (p.temporarySibling tag) = fs.linkAt? p) := by
  obtain ⟨hLocate, hFile⟩ := FileSystem.find_eq_ok_iff.mp hFind
  have hStatus : fs.status p = .ok ⟨.file, mode⟩ := by
    rw [FileSystem.status, hFind]
    rfl
  have hRead : fs.read p = .ok old := by
    rw [FileSystem.read, hFind]
    rfl
  obtain ⟨dir, n, hSeat, hFits, hLeads⟩ := FileSystem.exists_seat_of_read hTree hRead
  rcases run_replace_cases hSeat hFits hLeads.isDirectory_eq hStatus tag content with
    ⟨cause, s, hRun, hSame⟩ | ⟨s, hRun, hStart, hMoves⟩
  · rw [hRun]
    have hFailed : (Except.error cause : Except IoError Unit) ≠ .ok () := fun hOk => by cases hOk
    have hRest : ∀ k, k ≠ l → fs.locate false (p.temporarySibling tag) ≠ .ok k →
        s.lookup? k = fs.lookup? k := fun k _ => hSame k
    refine iff_of_true ⟨fun hOk => absurd hOk hFailed, fun hOk => absurd hOk hFailed, hRest, ?_⟩
      fun hOk => absurd hOk hFailed
    exact link_of_rest hSeat hFits hFile hRest
  · rw [hRun, affectsOnly_iff_of_moves hSeat hFits hLocate hFile hStart hMoves]
    exact ⟨fun h _ => h, fun h => h rfl⟩

/-- A file beside which a temporary file of an earlier run was left. -/
def leftoverTree : FileSystem :=
  ⟨[(["a.txt"], .file [1] 0o644), ([".a.txt.asflint-0.tmp"], .file [2] 0o600)], []⟩

/-- Temporary files that were left do no harm. -/
theorem affectsOnly_beside_leftover :
    leftoverTree.WellFormed ∧
      leftoverTree.find true ⟨"a.txt"⟩ = .ok (["a.txt"], .file [1] 0o644) ∧
      AffectsOnly 0 ⟨"a.txt"⟩ [3] ["a.txt"] 0o644 leftoverTree
        ((replace 0 ⟨"a.txt"⟩ [3]).run leftoverTree).1
        ((replace 0 ⟨"a.txt"⟩ [3]).run leftoverTree).2 := by
  have hTree : leftoverTree.WellFormed := .of_entries (by decide) (by decide)
  have hFind : leftoverTree.find true ⟨"a.txt"⟩ = .ok (["a.txt"], .file [1] 0o644) := rfl
  have hLinks : leftoverTree.linkAt? (Path.temporarySibling ⟨"a.txt"⟩ 0) =
      leftoverTree.linkAt? ⟨"a.txt"⟩ := rfl
  exact ⟨hTree, hFind, (affectsOnly_iff hTree hFind 0 [3]).mpr fun _ => hLinks⟩

/-- A file and a link to it. -/
def linkedTree : FileSystem :=
  ⟨[(["t.txt"], .file [1] 0o644), (["l.txt"], .link ⟨"t.txt"⟩)], []⟩

/-- A replacement at the link makes a file of it. -/
theorem not_affectsOnly_linked :
    linkedTree.WellFormed ∧
      linkedTree.find true ⟨"l.txt"⟩ = .ok (["t.txt"], .file [1] 0o644) ∧
      ¬ AffectsOnly 0 ⟨"l.txt"⟩ [2] ["t.txt"] 0o644 linkedTree
        ((replace 0 ⟨"l.txt"⟩ [2]).run linkedTree).1
        ((replace 0 ⟨"l.txt"⟩ [2]).run linkedTree).2 := by
  refine ⟨.of_entries (by decide) (by decide), rfl, fun h => ?_⟩
  have hOwn : linkedTree.find false ⟨"l.txt"⟩ = .ok (["l.txt"], .link ⟨"t.txt"⟩) := rfl
  have hKept := h.link _ _ hOwn
  have hMade : ((replace 0 ⟨"l.txt"⟩ [2]).run linkedTree).2.lookup? ["l.txt"] =
      some (.file [2] 0o644) := rfl
  rw [hMade] at hKept
  cases hKept

end Program

end LicenseAudit
