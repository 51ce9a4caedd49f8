import LicenseAudit.Proofs.FileSystem.Trees

/-!
# File operations at a place

A path that ends in a name has a seat: the directory that the steps before the name lead to, and
the name. Once the seat is known, an operation on the path is an operation at one place.

* `FileSystem.Seat` — the seat of a path;
* `Path.refusal?` — why the path of a seat is refused, if it is;
* `FileSystem.LeadsToFile` — a file stands at a seat, or a link to one.

## Results

* `exists_seat_of_read` — a file that can be read has a seat, and stands there or is linked there.
* `Seat.keeps` — the seat of a path stays as long as directories do and links to directories.
* `Seat.read`, `Seat.write`, `Seat.setMode`, `Seat.rename`, `Seat.remove` — the operations at a
  seat, beside the cases in which they are refused.
-/

namespace LicenseAudit

-- ---------------------------------------------------------------------------
-- Seats
-- ---------------------------------------------------------------------------

/-- Why a path that ends in a name is refused wherever it leads, if it is. -/
def Path.refusal? (p : Path) (n : String) : Option IoError :=
  match FileSystem.checkText p with
  | .error e => some e
  | .ok () => if nameLimit < n.utf8ByteSize then some .nameTooLong else none

namespace FileSystem

/-- The path ends in a name, and the steps before it lead to a directory. -/
structure Seat (fs : FileSystem) (p : Path) (dir : Location) (n : String) : Prop where
  proper    : ProperName n
  ended     : p.endsWithSeparator = false
  way       : ∃ front k, p.steps = front ++ [n] ∧
    Leads fs linkLimit (fs.start p) front k dir
  directory : fs.isDirectory dir = true

variable {fs : FileSystem} {p : Path} {dir : Location} {n : String}

theorem Seat.keeps {fs' : FileSystem} (h : fs.Seat p dir n) (hKeeps : KeepsWays fs fs') :
    fs'.Seat p dir n where
  proper := h.proper
  ended := h.ended
  way := by
    obtain ⟨front, k, hSteps, hLeads⟩ := h.way
    have hStart : fs'.start p = fs.start p := by rw [start, start, hKeeps.start]
    exact ⟨front, k, hSteps, hStart ▸ hLeads.keeps hKeeps h.directory⟩
  directory := hKeeps.isDirectory h.directory

/-- A path has one seat. -/
theorem Seat.unique {dir' : Location} {n' : String} (h : fs.Seat p dir n)
    (h' : fs.Seat p dir' n') : dir = dir' ∧ n = n' := by
  obtain ⟨front, k, hSteps, hLeads⟩ := h.way
  obtain ⟨front', k', hSteps', hLeads'⟩ := h'.way
  obtain ⟨rfl, hName⟩ := List.append_inj' (hSteps.symm.trans hSteps') rfl
  refine ⟨?_, List.singleton_inj.mp hName⟩
  have hSame := hLeads.walkWithin_eq.symm.trans hLeads'.walkWithin_eq
  exact Except.ok.inj hSame

/-- Resolving a path with a seat comes down to its last step. -/
theorem Seat.locate_eq (h : fs.Seat p dir n) (followLast : Bool) :
    ∃ k, fs.locate followLast p = (do
      checkText p
      fs.walkWithin followLast k dir [n]) := by
  obtain ⟨front, k, hSteps, hLeads⟩ := h.way
  refine ⟨k, ?_⟩
  have hFull : p.fullSteps = front ++ [n] := by
    rw [Path.fullSteps, hSteps, h.ended]
    exact List.append_nil _
  rw [locate, hFull, walkWithin_append followLast hLeads (Or.inl (List.cons_ne_nil n []))]

/-- A path is refused for its text as a whole or for the length of its name. -/
theorem refusal?_eq_some_iff {e : IoError} :
    p.refusal? n = some e ↔ checkText p = .error e ∨
      checkText p = .ok () ∧ nameLimit < n.utf8ByteSize ∧ e = .nameTooLong := by
  rw [Path.refusal?]
  cases checkText p with
  | error e' => simp
  | ok _ => simp [eq_comm]

theorem refusal?_eq_none_iff :
    p.refusal? n = none ↔ checkText p = .ok () ∧ n.utf8ByteSize ≤ nameLimit := by
  rw [Path.refusal?]
  cases checkText p with
  | error e => simp
  | ok _ => simp

/-- The place of a path with a seat, unless a link stands there that is to be followed. -/
theorem Seat.locate (h : fs.Seat p dir n) (hFits : p.refusal? n = none) {followLast : Bool}
    (hPlain : followLast = true → ∀ target, fs.lookup? (n :: dir) ≠ some (.link target)) :
    fs.locate followLast p = .ok (n :: dir) := by
  obtain ⟨k, hLocate⟩ := h.locate_eq followLast
  obtain ⟨hText, hShort⟩ := refusal?_eq_none_iff.mp hFits
  rw [hLocate, hText]
  show fs.walkWithin followLast k dir [n] = _
  rw [walkWithin_named h.directory ⟨h.proper.notHere, h.proper.notUp, hShort⟩]
  cases hEntry : fs.lookup? (n :: dir) with
  | none => rfl
  | some e =>
    cases e with
    | link target =>
      cases followLast with
      | true => exact absurd hEntry (hPlain rfl target)
      | false => rfl
    | file | directory => exact walkWithin_nil ..

/-- A path with a seat has its own place there, whatever stands in it. -/
theorem Seat.locate_own (h : fs.Seat p dir n) (hFits : p.refusal? n = none) :
    fs.locate false p = .ok (n :: dir) :=
  h.locate hFits fun hFollow => by cases hFollow

/-- A refused path has no place. -/
theorem Seat.locate_of_refusal {e : IoError} (h : fs.Seat p dir n)
    (hRefused : p.refusal? n = some e) (followLast : Bool) :
    fs.locate followLast p = .error e := by
  obtain ⟨k, hLocate⟩ := h.locate_eq followLast
  rw [hLocate]
  rcases refusal?_eq_some_iff.mp hRefused with hText | ⟨hText, hLong, rfl⟩
  · rw [hText]
    rfl
  · rw [hText]
    show fs.walkWithin followLast k dir [n] = _
    rw [walkWithin_cons, h.directory]
    simp [h.proper.notHere, h.proper.notUp, hLong]

/-- What is found at the end of a path with a seat stands there, unless it is a link. -/
theorem Seat.eq_of_locate {e : Entry} {l : Location} (h : fs.Seat p dir n)
    (hEntry : fs.lookup? (n :: dir) = some e) (hPlain : e.isLink = false)
    (hLocate : fs.locate true p = .ok l) : l = n :: dir := by
  cases hRefusal : p.refusal? n with
  | some cause =>
    rw [h.locate_of_refusal hRefusal] at hLocate
    cases hLocate
  | none =>
    rw [h.locate hRefusal] at hLocate
    · exact (Except.ok.inj hLocate).symm
    · intro _ target hLink
      rw [hEntry] at hLink
      cases hLink
      cases hPlain

/-- The directory and the name of a path with a seat. -/
theorem Seat.locateParent (h : fs.Seat p dir n) :
    fs.locateParent p = (do
      checkText p
      return (dir, some n)) := by
  obtain ⟨front, k, hSteps, hLeads⟩ := h.way
  have hLast : (n = "." || n = "..") = false := by simp [h.proper.notHere, h.proper.notUp]
  rw [FileSystem.locateParent, hSteps, List.dropLast_concat, hLeads.walkWithin_eq,
    List.getLast?_concat]
  cases checkText p with
  | error e => rfl
  | ok _ => simp [bind, Except.bind, h.directory, hLast]

/-- A path whose parent can be located has its seat there, unless a separator ends it. -/
theorem seat_of_locateParent (hParent : fs.locateParent p = .ok (dir, some n))
    (hOpen : p.endsWithSeparator = false) : checkText p = .ok () ∧ fs.Seat p dir n := by
  obtain ⟨hDir, hProper⟩ := exists_parent hParent
  rw [FileSystem.locateParent] at hParent
  obtain ⟨⟨⟩, hText, hParent⟩ := bind_eq_ok_iff.mp hParent
  obtain ⟨d, hWalk, hParent⟩ := bind_eq_ok_iff.mp hParent
  obtain ⟨-, hParent⟩ := of_guard hParent
  cases hLast : p.steps.getLast? with
  | none =>
    rw [hLast] at hParent
    cases hParent
  | some name =>
    rw [hLast] at hParent
    obtain ⟨rfl, hName⟩ := Prod.mk.inj (Except.ok.inj hParent)
    obtain ⟨-, hName⟩ := Option.ite_none_left_eq_some.mp hName
    obtain rfl : name = n := Option.some.inj hName
    have hSteps : p.steps = p.steps.dropLast ++ [name] :=
      (List.dropLast_append_getLast? name hLast).symm
    rw [← List.append_nil p.steps.dropLast] at hWalk
    obtain ⟨k, d', hLeads, hHere⟩ := exists_leads (Or.inr ⟨rfl, hDir⟩) hWalk
    rw [walkWithin_nil] at hHere
    obtain rfl := Except.ok.inj hHere
    exact ⟨hText, hProper, hOpen, ⟨_, k, hSteps, hLeads⟩, hDir⟩

/-- The name of a seat is the file name of its path. -/
theorem Seat.fileName?_eq (h : fs.Seat p dir n) : p.fileName? = some n := by
  obtain ⟨front, k, hSteps, -⟩ := h.way
  obtain ⟨ps, hNamed, -⟩ := Path.exists_named hSteps h.ended h.proper.notHere h.proper.notUp
  exact hNamed.fileName?_eq

/-- A sibling has its seat in the same directory. -/
theorem Seat.sibling (h : fs.Seat p dir n) {m : String} (hProper : ProperName m) :
    fs.Seat (p.withFileName m) dir m := by
  obtain ⟨front, k, hSteps, hLeads⟩ := h.way
  obtain ⟨ps, hNamed, rfl⟩ := Path.exists_named hSteps h.ended h.proper.notHere h.proper.notUp
  obtain ⟨qs, count, hSibling, hDots, hHead⟩ := hNamed.withFileName hProper
  rw [hDots] at hLeads
  obtain ⟨k₁, d, hWay, hRest⟩ := hLeads.split
  obtain ⟨-, rfl⟩ := hRest.of_dots
  have hStart : fs.start (p.withFileName m) = fs.start p := by
    have hSame : (p.withFileName m).isAbsolute = p.isAbsolute := by
      rw [Bool.eq_iff_iff, hSibling.isAbsolute_iff, hNamed.isAbsolute_iff, hHead]
    rw [start, start, hSame]
  exact ⟨hProper, hSibling.endsWithSeparator,
    ⟨Path.stepsOf qs, k₁, hSibling.steps_eq, hStart ▸ hWay⟩, h.directory⟩

-- ---------------------------------------------------------------------------
-- Paths of directories
-- ---------------------------------------------------------------------------

/-- The path of a directory, links followed. -/
structure Opens (fs : FileSystem) (p : Path) (l : Location) : Prop where
  way       : ∃ k, Leads fs linkLimit (fs.start p) p.steps k l
  directory : fs.isDirectory l = true

/-- An entry of a directory has its seat there. -/
theorem Opens.seat {l : Location} (h : fs.Opens p l) {m : String} (hProper : ProperName m) :
    fs.Seat (p.join ⟨m⟩) l m := by
  have hNamed := Path.named_join p hProper
  obtain ⟨k, hLeads⟩ := h.way
  have hStart : fs.start (p.join ⟨m⟩) = fs.start p := by
    rw [start, start, Path.isAbsolute_join p hProper]
  refine ⟨hProper, hNamed.endsWithSeparator, ⟨p.steps, k, ?_, hStart ▸ hLeads⟩, h.directory⟩
  rw [hNamed.steps_eq, Path.stepsOf_basePieces]

/-- A path whose entries can be listed is that of a directory. -/
theorem opens_of_list {entries : List (String × EntryKind)} (h : fs.list p = .ok entries) :
    ∃ l, fs.Opens p l ∧ fs.locate true p = .ok l ∧
      entries = (fs.children l).map fun c => (c.1, c.2.status.kind) := by
  obtain ⟨l, mode, hFind, rfl⟩ := find_of_list h
  obtain ⟨hLocate, hEntry⟩ := find_eq_ok_iff.mp hFind
  have hDir := isDirectory_of_lookup? hEntry
  refine ⟨l, ⟨?_, hDir⟩, hLocate, rfl⟩
  have hWalk := (locate_eq_ok_iff.mp hLocate).2
  rw [Path.fullSteps] at hWalk
  obtain ⟨k, d, hLeads, hLast⟩ := exists_leads (Or.inr ⟨rfl, hDir⟩) hWalk
  have hSame : l = d := by
    cases hSlash : p.endsWithSeparator with
    | false =>
      rw [hSlash, if_neg Bool.false_ne_true, walkWithin_nil] at hLast
      exact (Except.ok.inj hLast).symm
    | true =>
      rw [hSlash, if_pos rfl] at hLast
      obtain ⟨-, ⟨-, hHere⟩ | ⟨hUp, -⟩ | ⟨hName, -⟩⟩ := walkWithin_singleton hLast
      · exact hHere
      · exact absurd hUp (by decide)
      · exact absurd rfl hName.notHere
  exact ⟨k, hSame ▸ hLeads⟩

-- ---------------------------------------------------------------------------
-- Operations at a seat
-- ---------------------------------------------------------------------------

variable {content : Bytes} {mode : Nat}

/-- What stands at the seat is found there. -/
theorem Seat.find (h : fs.Seat p dir n) (hFits : p.refusal? n = none) {followLast : Bool}
    {e : Entry} (hPlain : followLast = true → e.isLink = false)
    (hEntry : fs.lookup? (n :: dir) = some e) :
    fs.find followLast p = .ok (n :: dir, e) := by
  refine find_eq_ok_iff.mpr ⟨h.locate hFits fun hFollow target hLink => ?_, hEntry⟩
  rw [hEntry] at hLink
  cases hLink
  cases hPlain hFollow

theorem Seat.read (h : fs.Seat p dir n) (hFits : p.refusal? n = none)
    (hFile : fs.lookup? (n :: dir) = some (.file content mode)) : fs.read p = .ok content := by
  rw [FileSystem.read, h.find hFits (fun _ => rfl) hFile]
  rfl

theorem Seat.status (h : fs.Seat p dir n) (hFits : p.refusal? n = none)
    (hFile : fs.lookup? (n :: dir) = some (.file content mode)) :
    fs.status p = .ok ⟨.file, mode⟩ := by
  rw [FileSystem.status, h.find hFits (fun _ => rfl) hFile]
  rfl

theorem Seat.linkStatus (h : fs.Seat p dir n) (hFits : p.refusal? n = none) {e : Entry}
    (hEntry : fs.lookup? (n :: dir) = some e) : fs.linkStatus p = .ok e.status := by
  rw [FileSystem.linkStatus, h.find hFits (fun hFollow => by cases hFollow) hEntry]
  rfl

/-- Where no status is known nothing stands. -/
theorem Seat.lookup?_eq_none (h : fs.Seat p dir n) (hFits : p.refusal? n = none)
    (hVacant : ∀ s, fs.linkStatus p ≠ .ok s) : fs.lookup? (n :: dir) = none := by
  by_contra hSome
  obtain ⟨e, hEntry⟩ := Option.ne_none_iff_exists'.mp hSome
  exact hVacant _ (h.linkStatus hFits hEntry)

/-- Where nothing stands no status is known. -/
theorem Seat.linkStatus_ne_ok (h : fs.Seat p dir n) (hVacant : fs.lookup? (n :: dir) = none)
    (s : Status) : fs.linkStatus p ≠ .ok s := by
  rw [FileSystem.linkStatus, FileSystem.find]
  cases hRefusal : p.refusal? n with
  | some cause =>
    rw [h.locate_of_refusal hRefusal]
    exact fun hStatus => by cases hStatus
  | none =>
    rw [h.locate_own hRefusal]
    simp [bind, Except.bind, hVacant]

/-- Writing where nothing stands creates a file. -/
theorem Seat.write (h : fs.Seat p dir n) (hFits : p.refusal? n = none)
    (hVacant : fs.lookup? (n :: dir) = none) (content : Bytes) :
    fs.write p content = .ok (fs.put (n :: dir) (.file content fileMode)) := by
  have hLocate : fs.locate true p = .ok (n :: dir) :=
    h.locate hFits fun _ target hLink => by simp [hVacant] at hLink
  rw [FileSystem.write, h.ended, hLocate]
  simp [bind, Except.bind, hVacant]

/-- Writing over a file keeps its permission bits. -/
theorem Seat.write_over (h : fs.Seat p dir n) (hFits : p.refusal? n = none)
    (hFile : fs.lookup? (n :: dir) = some (.file content mode)) (content' : Bytes) :
    fs.write p content' = .ok (fs.put (n :: dir) (.file content' mode)) := by
  have hLocate : fs.locate true p = .ok (n :: dir) :=
    h.locate hFits fun _ target hLink => by simp [hFile] at hLink
  rw [FileSystem.write, h.ended, hLocate]
  simp [bind, Except.bind, hFile]

theorem Seat.write_of_refusal {e : IoError} (h : fs.Seat p dir n)
    (hRefused : p.refusal? n = some e) (content : Bytes) :
    fs.write p content = .error e := by
  rw [FileSystem.write, h.ended, h.locate_of_refusal hRefused]
  rfl

theorem Seat.setMode (h : fs.Seat p dir n) (hFits : p.refusal? n = none)
    (hFile : fs.lookup? (n :: dir) = some (.file content mode)) (mode' : Nat) :
    fs.setMode p mode' = .ok (fs.put (n :: dir) (.file content mode')) := by
  rw [FileSystem.setMode, h.find hFits (fun _ => rfl) hFile]
  rfl

/-- Permission bits are not set where nothing stands. -/
theorem Seat.setMode_of_vacant (h : fs.Seat p dir n) (hFits : p.refusal? n = none)
    (hVacant : fs.lookup? (n :: dir) = none) (mode' : Nat) :
    fs.setMode p mode' = .error .noEntry := by
  have hLocate : fs.locate true p = .ok (n :: dir) :=
    h.locate hFits fun _ target hLink => by simp [hVacant] at hLink
  rw [FileSystem.setMode, FileSystem.find, hLocate]
  simp [bind, Except.bind, hVacant]

theorem Seat.setMode_of_refusal {e : IoError} (h : fs.Seat p dir n)
    (hRefused : p.refusal? n = some e) (mode' : Nat) : fs.setMode p mode' = .error e := by
  rw [FileSystem.setMode, FileSystem.find, h.locate_of_refusal hRefused]
  rfl

/-- A file or a link is moved to a sibling's place, over the file or the link that stands there. -/
theorem Seat.rename {q : Path} {m : String} {e : Entry} (h : fs.Seat p dir n)
    (h' : fs.Seat q dir m) (hFits : p.refusal? n = none) (hFits' : q.refusal? m = none)
    (hOther : m ≠ n) (hPlain : fs.isDirectory (n :: dir) = false) (hKind : e.isDirectory = false)
    (hEntry' : fs.lookup? (m :: dir) = some e) :
    fs.rename q p = .ok ((fs.erase (m :: dir)).put (n :: dir) e) := by
  obtain ⟨hText, hShort⟩ := refusal?_eq_none_iff.mp hFits
  obtain ⟨hText', hShort'⟩ := refusal?_eq_none_iff.mp hFits'
  rw [FileSystem.rename, h.locateParent, h'.locateParent, hText, hText']
  simp [bind, Except.bind, pure, Except.pure, Nat.not_lt.mpr hShort, Nat.not_lt.mpr hShort',
    hEntry', hKind, h.ended, h'.ended, hPlain, hOther]

/-- What does not stand there is not moved. -/
theorem Seat.rename_of_vacant {q : Path} {m : String} (h : fs.Seat p dir n)
    (h' : fs.Seat q dir m) (hFits : p.refusal? n = none) (hFits' : q.refusal? m = none)
    (hVacant : fs.lookup? (m :: dir) = none) : fs.rename q p = .error .noEntry := by
  obtain ⟨hText, -⟩ := refusal?_eq_none_iff.mp hFits
  obtain ⟨hText', hShort'⟩ := refusal?_eq_none_iff.mp hFits'
  rw [FileSystem.rename, h.locateParent, h'.locateParent, hText, hText']
  simp [bind, Except.bind, pure, Except.pure, Nat.not_lt.mpr hShort', hVacant]

/-- Nothing is moved from a refused path. -/
theorem Seat.rename_of_refusal {q : Path} {m : String} {e : IoError} (h : fs.Seat p dir n)
    (h' : fs.Seat q dir m) (hFits : p.refusal? n = none) (hRefused : q.refusal? m = some e) :
    fs.rename q p = .error e := by
  obtain ⟨hText, -⟩ := refusal?_eq_none_iff.mp hFits
  rw [FileSystem.rename, h.locateParent, h'.locateParent, hText]
  rcases refusal?_eq_some_iff.mp hRefused with hText' | ⟨hText', hLong, rfl⟩
  · rw [hText']
    rfl
  · rw [hText']
    simp [bind, Except.bind, pure, Except.pure, hLong]

theorem Seat.remove (h : fs.Seat p dir n) (hFits : p.refusal? n = none)
    (hFile : fs.lookup? (n :: dir) = some (.file content mode)) :
    fs.remove p = .ok (fs.erase (n :: dir)) := by
  obtain ⟨hText, hShort⟩ := refusal?_eq_none_iff.mp hFits
  rw [FileSystem.remove, h.locateParent, hText]
  simp [bind, Except.bind, pure, Except.pure, Nat.not_lt.mpr hShort, hFile, Entry.isDirectory,
    h.ended]

/-- What does not stand there is not removed. -/
theorem Seat.remove_of_vacant (h : fs.Seat p dir n) (hFits : p.refusal? n = none)
    (hVacant : fs.lookup? (n :: dir) = none) : fs.remove p = .error .noEntry := by
  obtain ⟨hText, hShort⟩ := refusal?_eq_none_iff.mp hFits
  rw [FileSystem.remove, h.locateParent, hText]
  simp [bind, Except.bind, pure, Except.pure, Nat.not_lt.mpr hShort, hVacant]

/-- A refused path is not removed. -/
theorem Seat.remove_of_refusal {e : IoError} (h : fs.Seat p dir n)
    (hRefused : p.refusal? n = some e) : fs.remove p = .error e := by
  rw [FileSystem.remove, h.locateParent]
  rcases refusal?_eq_some_iff.mp hRefused with hText | ⟨hText, hLong, rfl⟩
  · rw [hText]
    rfl
  · rw [hText]
    simp [bind, Except.bind, pure, Except.pure, hLong]

-- ---------------------------------------------------------------------------
-- Files that can be read
-- ---------------------------------------------------------------------------

/-- At the place stands a file with the content, or a link through which it is read. -/
def LeadsToFile (fs : FileSystem) (dir : Location) (n : String) (content : Bytes) : Prop :=
  (∃ mode, fs.lookup? (n :: dir) = some (.file content mode)) ∨
    ∃ target l links mode, fs.lookup? (n :: dir) = some (.link target) ∧
      fs.walkWithin true links (if target.isAbsolute then [] else dir) target.fullSteps = .ok l ∧
      fs.lookup? l = some (.file content mode)

/-- A path that ends with a separator is resolved to a directory. -/
theorem isDirectory_of_endsWithSeparator {followLast : Bool} {l : Location}
    (hLocate : fs.locate followLast p = .ok l) (hSlash : p.endsWithSeparator = true) :
    fs.isDirectory l = true := by
  obtain ⟨-, hWalk⟩ := locate_eq_ok_iff.mp hLocate
  rw [Path.fullSteps, if_pos hSlash] at hWalk
  obtain ⟨k, d, -, hLast⟩ := exists_leads (Or.inl (List.cons_ne_nil "." [])) hWalk
  obtain ⟨hDir, ⟨-, rfl⟩ | ⟨hUp, -⟩ | ⟨hName, -⟩⟩ := walkWithin_singleton hLast
  · exact hDir
  · exact absurd hUp (by decide)
  · exact absurd rfl hName.notHere

/-- A path that leads to anything but a directory has a seat: where it leads to, or the place of a
link that is followed. -/
theorem exists_seat_of_locate (hTree : fs.WellFormed) {l : Location}
    (hLocate : fs.locate true p = .ok l) (hPlain : fs.isDirectory l = false) :
    ∃ dir n, fs.Seat p dir n ∧ p.refusal? n = none ∧
      (l = n :: dir ∨ ∃ target links, fs.lookup? (n :: dir) = some (.link target) ∧
        fs.walkWithin true links (if target.isAbsolute then [] else dir) target.fullSteps =
          .ok l) := by
  obtain ⟨hText, hWalk⟩ := locate_eq_ok_iff.mp hLocate
  have hNoDir : ∀ {d : Location}, fs.isDirectory d = true → l ≠ d := by
    rintro d hDir rfl
    rw [hPlain] at hDir
    cases hDir
  have hOpen : p.endsWithSeparator = false := by
    by_contra hSlash
    exact hNoDir (isDirectory_of_endsWithSeparator hLocate (by simpa using hSlash)) rfl
  obtain ⟨front, n, hSteps⟩ := Path.exists_last_step (filled_of_checkText hText) hOpen
  have hFull : p.fullSteps = front ++ [n] := by
    rw [Path.fullSteps, hSteps, hOpen]
    exact List.append_nil _
  rw [hFull] at hWalk
  obtain ⟨k, d, hLeads, hLast⟩ := exists_leads (Or.inl (List.cons_ne_nil n [])) hWalk
  obtain ⟨hDir, hStep⟩ := firstStep_of_ok hLast
  have hSeat : Nameable n → fs.Seat p d n ∧ p.refusal? n = none := by
    intro hName
    obtain ⟨ps, hNamed, -⟩ := Path.exists_named hSteps hOpen hName.notHere hName.notUp
    exact ⟨⟨hNamed.proper, hOpen, ⟨front, k, hSteps, hLeads⟩, hDir⟩,
      refusal?_eq_none_iff.mpr ⟨hText, hName.short⟩⟩
  cases hStep with
  | stay hRest =>
    rw [walkWithin_nil] at hRest
    exact absurd (Except.ok.inj hRest).symm (hNoDir hDir)
  | up hRest =>
    rw [walkWithin_nil] at hRest
    obtain ⟨mode', hEntry⟩ := exists_directory hDir
    exact absurd (Except.ok.inj hRest).symm (hNoDir (hTree.isDirectory_tail hEntry))
  | vacant hName hVacant hPlace => exact ⟨d, n, (hSeat hName).1, (hSeat hName).2, Or.inl hPlace⟩
  | linked hName hKeep => cases hKeep
  | enter hName hEntry hPlain hRest =>
    rw [walkWithin_nil] at hRest
    exact ⟨d, n, (hSeat hName).1, (hSeat hName).2, Or.inl (Except.ok.inj hRest).symm⟩
  | @follow links _ _ target hName hEntry hFollow hRest =>
    rw [List.append_nil] at hRest
    exact ⟨d, n, (hSeat hName).1, (hSeat hName).2, Or.inr ⟨target, links, hEntry, hRest⟩⟩

/-- A file that can be read has a seat. There it stands itself, or a link that leads to it. -/
theorem exists_seat_of_read (hTree : fs.WellFormed) (hRead : fs.read p = .ok content) :
    ∃ dir n, fs.Seat p dir n ∧ p.refusal? n = none ∧ fs.LeadsToFile dir n content := by
  obtain ⟨l, mode, hFind⟩ := find_of_read hRead
  obtain ⟨hLocate, hFile⟩ := find_eq_ok_iff.mp hFind
  have hPlain : fs.isDirectory l = false := by
    rw [FileSystem.isDirectory, hFile]
    rfl
  obtain ⟨dir, n, hSeat, hFits, rfl | ⟨target, links, hLink, hWalk⟩⟩ :=
    exists_seat_of_locate hTree hLocate hPlain
  · exact ⟨dir, n, hSeat, hFits, Or.inl ⟨mode, hFile⟩⟩
  · exact ⟨dir, n, hSeat, hFits, Or.inr ⟨target, l, links, mode, hLink, hWalk, hFile⟩⟩

/-- What is found where links are followed stands at the path itself, or a link to it does. -/
theorem exists_linkStatus_of_status {st : Status} (h : fs.status p = .ok st) :
    ∃ st', fs.linkStatus p = .ok st' := by
  obtain ⟨⟨l, e⟩, hFind, -⟩ := bind_eq_ok_iff.mp h
  obtain ⟨hLocate, hEntry⟩ := find_eq_ok_iff.mp hFind
  obtain ⟨hText, hWalk⟩ := locate_eq_ok_iff.mp hLocate
  have hOwn : ∀ {l : Location} {e : Entry}, fs.walkWithin false linkLimit (fs.start p)
      p.fullSteps = .ok l → fs.lookup? l = some e → ∃ st', fs.linkStatus p = .ok st' := by
    intro l e hWalk hEntry
    refine ⟨e.status, ?_⟩
    rw [FileSystem.linkStatus, find_eq_ok_iff.mpr ⟨locate_eq_ok_iff.mpr ⟨hText, hWalk⟩, hEntry⟩]
    rfl
  have hSteps : p.fullSteps ≠ [] := Path.fullSteps_ne_nil (filled_of_checkText hText)
  rw [← List.dropLast_append_getLast hSteps] at hWalk hOwn
  generalize p.fullSteps.getLast hSteps = n at hWalk hOwn
  have hTail : [n] ≠ [] := List.cons_ne_nil n []
  obtain ⟨k, d, hLeads, hLast⟩ := exists_leads (Or.inl hTail) hWalk
  rw [walkWithin_append false hLeads (Or.inl hTail)] at hOwn
  obtain ⟨hDir, hStep⟩ := firstStep_of_ok hLast
  cases hStep with
  | stay hRest =>
    refine hOwn ?_ hEntry
    rw [walkWithin_cons, hDir]
    exact (walkWithin_nil ..).trans ((walkWithin_nil ..).symm.trans hRest)
  | up hRest =>
    refine hOwn ?_ hEntry
    rw [walkWithin_cons, hDir]
    exact (walkWithin_nil ..).trans ((walkWithin_nil ..).symm.trans hRest)
  | vacant hName hVacant hPlace =>
    rw [hPlace, hVacant] at hEntry
    cases hEntry
  | linked hName hKeep => cases hKeep
  | @enter _ _ _ e' hName hHere hPlain hRest =>
    refine hOwn (l := n :: d) ?_ hHere
    rw [walkWithin_named hDir hName, hHere]
    cases e' with
    | link target => cases hPlain
    | file | directory => exact walkWithin_nil ..
  | @follow links _ _ target hName hHere hFollow hRest =>
    refine hOwn (l := n :: d) ?_ hHere
    rw [walkWithin_named hDir hName, hHere]
    rfl

/-- A file that can be read, and is no link itself, has a seat and stands there. -/
theorem seat_of_read (hTree : fs.WellFormed) (hRead : fs.read p = .ok content)
    (hPlain : ∀ s, fs.linkStatus p = .ok s → s.kind ≠ .link) :
    ∃ dir n mode, fs.Seat p dir n ∧ p.refusal? n = none ∧
      fs.lookup? (n :: dir) = some (.file content mode) := by
  obtain ⟨dir, n, hSeat, hFits, ⟨mode, hFile⟩ | ⟨target, -, -, -, hLink, -⟩⟩ :=
    exists_seat_of_read hTree hRead
  · exact ⟨dir, n, mode, hSeat, hFits, hFile⟩
  · exact absurd rfl (hPlain _ (hSeat.linkStatus hFits hLink))

/-- A file that is found where no link is followed can be read. -/
theorem read_of_find {l : Location}
    (hFind : fs.find false p = .ok (l, .file content mode)) :
    fs.read p = .ok content := by
  obtain ⟨hLocate, hFile⟩ := find_eq_ok_iff.mp hFind
  obtain ⟨hText, hWalk⟩ := locate_eq_ok_iff.mp hLocate
  have hFollowed : fs.locate true p = .ok l := by
    refine locate_eq_ok_iff.mpr ⟨hText, walkWithin_true_of_false hWalk fun target hLink => ?_⟩
    rw [hFile] at hLink
    cases hLink
  rw [FileSystem.read, find_eq_ok_iff.mpr ⟨hFollowed, hFile⟩]
  rfl

/-- A path that leads to a file, links at its end not followed, has a seat and the file stands
there. -/
theorem seat_of_find (hTree : fs.WellFormed) {l : Location}
    (hFind : fs.find false p = .ok (l, .file content mode)) :
    ∃ dir n, fs.Seat p dir n ∧ p.refusal? n = none ∧ l = n :: dir := by
  have hPlain : ∀ s, fs.linkStatus p = .ok s → s.kind ≠ .link := by
    intro s hStatus
    rw [FileSystem.linkStatus, hFind] at hStatus
    cases hStatus
    intro hKind
    cases hKind
  obtain ⟨dir, n, mode', hSeat, hFits, -⟩ := seat_of_read hTree (read_of_find hFind) hPlain
  exact ⟨dir, n, hSeat, hFits,
    Except.ok.inj ((find_eq_ok_iff.mp hFind).1.symm.trans (hSeat.locate_own hFits))⟩

end FileSystem

end LicenseAudit
