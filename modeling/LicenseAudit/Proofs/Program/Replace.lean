import LicenseAudit.Program.Replace
import LicenseAudit.Proofs.FileSystem.Changes
import LicenseAudit.Proofs.Program.Run

/-!
# Replacing a file

The replacement of a file works at two places, that of the file and that of its temporary
sibling. Seen from these two places it is a program over two cells, and what it does to them does
not depend on what happens elsewhere.

* `Site` — the two places, by the path and the seat of the file;
* `Cells` — what stands there;
* `Site.Answers` — the calls that a replacement makes, what they are answered and what they do to
  the cells;
* `Site.Meets` — from the given cells on, a program makes such calls only and ends as required.

## Results

* `Site.Answers.perform` — the file system answers these calls so, and alters nothing else.
* `Site.Shows.frame` — changes elsewhere do not show in the cells.
* `Site.Meets.bind`, `Site.Answers.meets` — what a program meets is put together from its calls.
-/

namespace LicenseAudit

-- ---------------------------------------------------------------------------
-- Names of temporary files
-- ---------------------------------------------------------------------------

/-- The name of the temporary file beside a file. -/
def temporaryName (n : String) (tag : Nat) : String :=
  "." ++ n ++ ".asflint-" ++ toString tag ++ ".tmp"

theorem Path.temporarySibling_eq {p : Path} {n : String} (hName : p.fileName? = some n)
    (tag : Nat) : p.temporarySibling tag = p.withFileName (temporaryName n tag) := by
  rw [Path.temporarySibling, hName]
  rfl

theorem temporaryName_toList (n : String) (tag : Nat) :
    (temporaryName n tag).toList =
      '.' :: (n.toList ++ (".asflint-".toList ++ ((toString tag).toList ++ ".tmp".toList))) := by
  simp [temporaryName]

theorem temporaryName_getLast? (n : String) (tag : Nat) :
    (temporaryName n tag).toList.getLast? = some 'p' := by
  rw [temporaryName_toList, List.getLast?_cons, List.getLast?_append, List.getLast?_append,
    List.getLast?_append]
  rfl

theorem properName_temporaryName {n : String} (hProper : ProperName n) (tag : Nat) :
    ProperName (temporaryName n tag) := by
  have hLong : 2 < (temporaryName n tag).toList.length := by
    rw [temporaryName_toList]
    simp
    omega
  refine ⟨?_, ?_, ?_, ?_⟩
  · rw [temporaryName_toList]
    have hDigits : '/' ∉ Nat.toDigits 10 tag := by
      intro hMem
      have hDigit : '/'.isDigit = true :=
        Nat.isDigit_of_mem_toDigits (by omega : 0 < 10) (by omega) hMem
      exact absurd hDigit (by decide)
    simp [hProper.noSlash, hDigits]
  · rintro hEmpty
    rw [hEmpty] at hLong
    simp at hLong
  · intro hEq
    rw [hEq] at hLong
    simp at hLong
  · intro hEq
    rw [hEq] at hLong
    simp at hLong

/-- Files with different names have temporary files with different names. -/
theorem temporaryName_injective {m n : String} {tag : Nat}
    (h : temporaryName m tag = temporaryName n tag) : m = n := by
  have hLists := congrArg String.toList h
  rw [temporaryName_toList, temporaryName_toList] at hLists
  exact String.toList_inj.mp (List.append_cancel_right (List.cons.inj hLists).2)

theorem temporaryName_ne (n : String) (tag : Nat) : temporaryName n tag ≠ n := by
  intro hEq
  have hLength := congrArg (fun s => s.toList.length) hEq
  simp only [temporaryName_toList, List.length_cons, List.length_append] at hLength
  omega

namespace FileSystem

/-- The temporary file has its seat in the directory of the file. -/
theorem Seat.temporarySibling {fs : FileSystem} {p : Path} {dir : Location} {n : String}
    (h : fs.Seat p dir n) (tag : Nat) :
    fs.Seat (p.temporarySibling tag) dir (temporaryName n tag) := by
  rw [Path.temporarySibling_eq h.fileName?_eq]
  exact h.sibling (properName_temporaryName h.proper tag)

theorem perform_status (fs : FileSystem) (p : Path) :
    fs.perform (.status p) = (fs.status p, fs) := rfl

theorem perform_write (fs : FileSystem) (p : Path) (content : Bytes) :
    fs.perform (.write p content) = fs.change (fs.write p content) := rfl

theorem perform_setMode (fs : FileSystem) (p : Path) (mode : Nat) :
    fs.perform (.setMode p mode) = fs.change (fs.setMode p mode) := rfl

theorem perform_rename (fs : FileSystem) (p q : Path) :
    fs.perform (.rename p q) = fs.change (fs.rename p q) := rfl

theorem perform_remove (fs : FileSystem) (p : Path) :
    fs.perform (.remove p) = fs.change (fs.remove p) := rfl

/-- A change that is possible. -/
theorem change_ok {fs fs' : FileSystem} {r : Except IoError FileSystem}
    (h : r = .ok fs') : fs.change r = (.ok (), fs') := by
  rw [h]
  rfl

/-- A change that is refused. -/
theorem change_error {fs : FileSystem} {r : Except IoError FileSystem}
    {cause : IoError} (h : r = .error cause) : fs.change r = (.error cause, fs) := by
  rw [h]
  rfl

end FileSystem

-- ---------------------------------------------------------------------------
-- The two places
-- ---------------------------------------------------------------------------

/-- Where a file is replaced: its path, and the directory and the name that the path leads to. -/
structure Site (tag : Nat) where
  path : Path
  dir : Location
  name : String

/-- What stands at the two places of a site: the file, and the temporary file if there is one, each
with its content and its permission bits. -/
structure Cells where
  content : Bytes
  mode : Nat
  spare : Option (Bytes × Nat)

namespace Site

variable {tag : Nat}

/-- The place of the file. -/
def place (s : Site tag) : Location := s.name :: s.dir

/-- The path of the temporary file. -/
def temporary (s : Site tag) : Path := s.path.temporarySibling tag

/-- The place of the temporary file. -/
def spare (s : Site tag) : Location := temporaryName s.name tag :: s.dir

/-- Why the path of the temporary file is refused, if it is. -/
def refusal? (s : Site tag) : Option IoError := s.temporary.refusal? (temporaryName s.name tag)

/-- The places that a replacement may touch. A temporary file whose path is refused is never
made. -/
def Owns (s : Site tag) (l : Location) : Prop := l = s.place ∨ s.refusal? = none ∧ l = s.spare

/-- The cells are what the file system has at the two places. -/
structure Shows (s : Site tag) (fs : FileSystem) (cells : Cells) : Prop where
  seat  : fs.Seat s.path s.dir s.name
  fits  : s.path.refusal? s.name = none
  file  : fs.lookup? s.place = some (.file cells.content cells.mode)
  spare : s.refusal? = none → fs.lookup? s.spare = cells.spare.map fun f => .file f.1 f.2

variable {s : Site tag} {fs fs' : FileSystem} {cells cells' : Cells}

theorem Shows.spareSeat (h : s.Shows fs cells) :
    fs.Seat s.temporary s.dir (temporaryName s.name tag) :=
  h.seat.temporarySibling tag

/-- A file with no temporary file beside it, as its site shows it. -/
theorem shows_of_vacant {p : Path} {dir : Location} {n : String} {content : Bytes} {mode : Nat}
    (hSeat : fs.Seat p dir n) (hFits : p.refusal? n = none)
    (hFile : fs.lookup? (n :: dir) = some (.file content mode))
    (hVacant : ∀ st, fs.linkStatus (p.temporarySibling tag) ≠ .ok st) :
    (⟨p, dir, n⟩ : Site tag).Shows fs ⟨content, mode, none⟩ where
  seat := hSeat
  fits := hFits
  file := hFile
  spare := fun hSpare => (hSeat.temporarySibling tag).lookup?_eq_none hSpare hVacant

/-- Without a temporary file in the cells none is told of. -/
theorem Shows.vacant (h : s.Shows fs cells) (hNone : cells.spare = none) (st : Status) :
    fs.linkStatus s.temporary ≠ .ok st := by
  cases hRefusal : s.refusal? with
  | none =>
    refine h.spareSeat.linkStatus_ne_ok ?_ st
    exact (h.spare hRefusal).trans (by rw [hNone]; rfl)
  | some cause =>
    rw [FileSystem.linkStatus, FileSystem.find, h.spareSeat.locate_of_refusal hRefusal]
    exact fun hStatus => by cases hStatus

theorem place_ne_nil (s : Site tag) : s.place ≠ [] := List.cons_ne_nil _ _

theorem spare_ne_nil (s : Site tag) : s.spare ≠ [] := List.cons_ne_nil _ _

theorem spare_ne_place (s : Site tag) : s.spare ≠ s.place := by
  intro hEq
  exact temporaryName_ne s.name tag (List.cons.inj hEq).1

/-- At the two places are files or nothing. -/
theorem Shows.exists_file (h : s.Shows fs cells) {l : Location} (hOwns : s.Owns l) {e : Entry}
    (hEntry : fs.lookup? l = some e) : ∃ content mode, e = .file content mode := by
  rcases hOwns with rfl | ⟨hFits, rfl⟩
  · rw [h.file] at hEntry
    exact ⟨_, _, (Option.some.inj hEntry).symm⟩
  · rw [h.spare hFits] at hEntry
    obtain ⟨f, -, rfl⟩ := Option.map_eq_some_iff.mp hEntry
    exact ⟨_, _, rfl⟩

/-- **Frame.** Changes elsewhere do not show in the cells. -/
theorem Shows.frame {places : Location → Prop} (h : s.Shows fs cells)
    (hAlters : FileSystem.Alters places fs fs') (hElsewhere : ∀ l, s.Owns l → ¬ places l) :
    s.Shows fs' cells where
  seat := h.seat.keeps hAlters.keeps.ways
  fits := h.fits
  file := by rw [hAlters.outside _ (hElsewhere _ (Or.inl rfl)), h.file]
  spare := fun hFits => by
    rw [hAlters.outside _ (hElsewhere _ (Or.inr ⟨hFits, rfl⟩)), h.spare hFits]

-- ---------------------------------------------------------------------------
-- Calls at the two places
-- ---------------------------------------------------------------------------

/-- The calls that a replacement makes: what they are answered and what they do to the cells. A
temporary file that is refused is never made, and one that is not there is neither given
permission bits nor moved nor removed. -/
inductive Answers (s : Site tag) : Cells → (c : Call) → c.Reply → Cells → Prop where
  | read {cells : Cells} : s.Answers cells (.read s.path) (.ok cells.content) cells
  | status {cells : Cells} : s.Answers cells (.status s.path) (.ok ⟨.file, cells.mode⟩) cells
  | write {cells : Cells} (hFits : s.refusal? = none) (hVacant : cells.spare = none)
      (content : Bytes) :
      s.Answers cells (.write s.temporary content) (.ok ())
        { cells with spare := some (content, FileSystem.fileMode) }
  | setMode {cells : Cells} {content : Bytes} {mode : Nat} (hFits : s.refusal? = none)
      (hSpare : cells.spare = some (content, mode)) (mode' : Nat) :
      s.Answers cells (.setMode s.temporary mode') (.ok ())
        { cells with spare := some (content, mode') }
  | rename {cells : Cells} {content : Bytes} {mode : Nat} (hFits : s.refusal? = none)
      (hSpare : cells.spare = some (content, mode)) :
      s.Answers cells (.rename s.temporary s.path) (.ok ()) ⟨content, mode, none⟩
  | refuseWrite {cells : Cells} {cause : IoError} (hRefused : s.refusal? = some cause)
      (content : Bytes) : s.Answers cells (.write s.temporary content) (.error cause) cells
  | refuseRemove {cells : Cells} {cause : IoError} (hRefused : s.refusal? = some cause) :
      s.Answers cells (.remove s.temporary) (.error cause) cells
  | writeOver {cells : Cells} {content : Bytes} {mode : Nat} (hFits : s.refusal? = none)
      (hSpare : cells.spare = some (content, mode)) (content' : Bytes) :
      s.Answers cells (.write s.temporary content') (.ok ())
        { cells with spare := some (content', mode) }
  | remove {cells : Cells} {content : Bytes} {mode : Nat} (hFits : s.refusal? = none)
      (hSpare : cells.spare = some (content, mode)) :
      s.Answers cells (.remove s.temporary) (.ok ()) { cells with spare := none }
  | missSetMode {cells : Cells} (hFits : s.refusal? = none) (hVacant : cells.spare = none)
      (mode : Nat) : s.Answers cells (.setMode s.temporary mode) (.error .noEntry) cells
  | missRename {cells : Cells} (hFits : s.refusal? = none) (hVacant : cells.spare = none) :
      s.Answers cells (.rename s.temporary s.path) (.error .noEntry) cells
  | missRemove {cells : Cells} (hFits : s.refusal? = none) (hVacant : cells.spare = none) :
      s.Answers cells (.remove s.temporary) (.error .noEntry) cells
  | refuseSetMode {cells : Cells} {cause : IoError} (hRefused : s.refusal? = some cause)
      (mode : Nat) : s.Answers cells (.setMode s.temporary mode) (.error cause) cells
  | refuseRename {cells : Cells} {cause : IoError} (hRefused : s.refusal? = some cause) :
      s.Answers cells (.rename s.temporary s.path) (.error cause) cells

/-- A file that is put where the temporary file belongs shows in the cells. -/
theorem Shows.put_spare (h : s.Shows fs cells) (hFits : s.refusal? = none) (content : Bytes)
    (mode : Nat) :
    s.Shows (fs.put s.spare (.file content mode)) { cells with spare := some (content, mode) } ∧
      FileSystem.Alters s.Owns fs (fs.put s.spare (.file content mode)) := by
  have hOwned : s.Owns s.spare := Or.inr ⟨hFits, rfl⟩
  have hAlters : FileSystem.Alters s.Owns fs (fs.put s.spare (.file content mode)) :=
    FileSystem.alters_put s.spare_ne_nil (fun e => h.exists_file hOwned) _ hOwned
  have hLookup := FileSystem.lookup?_put fs s.spare_ne_nil (.file content mode)
  refine ⟨⟨h.seat.keeps hAlters.keeps.ways, h.fits, ?_, fun _ => ?_⟩, hAlters⟩
  · rw [hLookup, if_neg s.spare_ne_place.symm, h.file]
  · rw [hLookup, if_pos rfl]
    rfl

/-- A temporary file that is moved over the file shows in the cells. -/
theorem Shows.move_spare (h : s.Shows fs cells) (hFits : s.refusal? = none) (content : Bytes)
    (mode : Nat) :
    s.Shows ((fs.erase s.spare).put s.place (.file content mode)) ⟨content, mode, none⟩ ∧
      FileSystem.Alters s.Owns fs ((fs.erase s.spare).put s.place (.file content mode)) := by
  have hOwned : s.Owns s.spare := Or.inr ⟨hFits, rfl⟩
  have hErase : FileSystem.Alters s.Owns fs (fs.erase s.spare) :=
    FileSystem.alters_erase s.spare_ne_nil (fun e => h.exists_file hOwned) hOwned
  have hGone := FileSystem.lookup?_erase fs s.spare_ne_nil
  have hPut : FileSystem.Alters s.Owns (fs.erase s.spare)
      ((fs.erase s.spare).put s.place (.file content mode)) := by
    refine FileSystem.alters_put s.place_ne_nil (fun e hEntry => ?_) _ (Or.inl rfl)
    rw [hGone, if_neg s.spare_ne_place.symm] at hEntry
    exact h.exists_file (Or.inl rfl) hEntry
  have hLookup := FileSystem.lookup?_put (fs.erase s.spare) s.place_ne_nil (.file content mode)
  have hAlters := hErase.trans hPut
  refine ⟨⟨h.seat.keeps hAlters.keeps.ways, h.fits, ?_, fun _ => ?_⟩, hAlters⟩
  · rw [hLookup, if_pos rfl]
  · rw [hLookup, if_neg s.spare_ne_place, hGone, if_pos rfl]
    rfl

/-- A temporary file that is removed is gone from the cells. -/
theorem Shows.erase_spare (h : s.Shows fs cells) (hFits : s.refusal? = none) :
    s.Shows (fs.erase s.spare) { cells with spare := none } ∧
      FileSystem.Alters s.Owns fs (fs.erase s.spare) := by
  have hOwned : s.Owns s.spare := Or.inr ⟨hFits, rfl⟩
  have hAlters : FileSystem.Alters s.Owns fs (fs.erase s.spare) :=
    FileSystem.alters_erase s.spare_ne_nil (fun e => h.exists_file hOwned) hOwned
  have hLookup := FileSystem.lookup?_erase fs s.spare_ne_nil
  refine ⟨⟨h.seat.keeps hAlters.keeps.ways, h.fits, ?_, fun _ => ?_⟩, hAlters⟩
  · rw [hLookup, if_neg s.spare_ne_place.symm, h.file]
  · rw [hLookup, if_pos rfl]
    rfl

/-- The file system answers the calls of a replacement as the cells say, and alters nothing
beside them. -/
theorem Answers.perform {c : Call} {reply : c.Reply} (h : s.Answers cells c reply cells')
    (hShows : s.Shows fs cells) :
    (fs.perform c).1 = reply ∧ s.Shows (fs.perform c).2 cells' ∧
      FileSystem.Alters s.Owns fs (fs.perform c).2 := by
  have hSeat := hShows.spareSeat
  have hSpare : ∀ {content : Bytes} {mode : Nat}, s.refusal? = none →
      cells.spare = some (content, mode) →
      fs.lookup? s.spare = some (.file content mode) := by
    intro content mode hFits hCell
    rw [hShows.spare hFits, hCell]
    rfl
  have hVacantSpare : s.refusal? = none → cells.spare = none → fs.lookup? s.spare = none := by
    intro hFits hCell
    rw [hShows.spare hFits, hCell]
    rfl
  cases h with
  | read => exact ⟨hShows.seat.read hShows.fits hShows.file, hShows, .refl _ _⟩
  | status => exact ⟨hShows.seat.status hShows.fits hShows.file, hShows, .refl _ _⟩
  | write hFits hVacant content =>
    have hWrite := hSeat.write hFits (hVacantSpare hFits hVacant) content
    rw [FileSystem.perform_write, FileSystem.change_ok hWrite]
    exact ⟨rfl, hShows.put_spare hFits _ _⟩
  | setMode hFits hCell mode' =>
    have hSetMode := hSeat.setMode hFits (hSpare hFits hCell) mode'
    rw [FileSystem.perform_setMode, FileSystem.change_ok hSetMode]
    exact ⟨rfl, hShows.put_spare hFits _ _⟩
  | rename hFits hCell =>
    have hPlain : fs.isDirectory s.place = false := by
      rw [FileSystem.isDirectory, hShows.file]
      rfl
    have hRename := hShows.seat.rename hSeat hShows.fits hFits (temporaryName_ne s.name tag)
      hPlain rfl (hSpare hFits hCell)
    rw [FileSystem.perform_rename, FileSystem.change_ok hRename]
    exact ⟨rfl, hShows.move_spare hFits _ _⟩
  | refuseWrite hRefused content =>
    have hWrite := hSeat.write_of_refusal hRefused content
    rw [FileSystem.perform_write, FileSystem.change_error hWrite]
    exact ⟨rfl, hShows, .refl _ _⟩
  | refuseRemove hRefused =>
    have hRemove := hSeat.remove_of_refusal hRefused
    rw [FileSystem.perform_remove, FileSystem.change_error hRemove]
    exact ⟨rfl, hShows, .refl _ _⟩
  | writeOver hFits hCell content' =>
    have hWrite := hSeat.write_over hFits (hSpare hFits hCell) content'
    rw [FileSystem.perform_write, FileSystem.change_ok hWrite]
    exact ⟨rfl, hShows.put_spare hFits _ _⟩
  | remove hFits hCell =>
    have hRemove := hSeat.remove hFits (hSpare hFits hCell)
    rw [FileSystem.perform_remove, FileSystem.change_ok hRemove]
    exact ⟨rfl, hShows.erase_spare hFits⟩
  | missSetMode hFits hCell mode =>
    have hSetMode := hSeat.setMode_of_vacant hFits (hVacantSpare hFits hCell) mode
    rw [FileSystem.perform_setMode, FileSystem.change_error hSetMode]
    exact ⟨rfl, hShows, .refl _ _⟩
  | missRename hFits hCell =>
    have hRename :=
      hShows.seat.rename_of_vacant hSeat hShows.fits hFits (hVacantSpare hFits hCell)
    rw [FileSystem.perform_rename, FileSystem.change_error hRename]
    exact ⟨rfl, hShows, .refl _ _⟩
  | missRemove hFits hCell =>
    have hRemove := hSeat.remove_of_vacant hFits (hVacantSpare hFits hCell)
    rw [FileSystem.perform_remove, FileSystem.change_error hRemove]
    exact ⟨rfl, hShows, .refl _ _⟩
  | refuseSetMode hRefused mode =>
    have hSetMode := hSeat.setMode_of_refusal hRefused mode
    rw [FileSystem.perform_setMode, FileSystem.change_error hSetMode]
    exact ⟨rfl, hShows, .refl _ _⟩
  | refuseRename hRefused =>
    have hRename := hShows.seat.rename_of_refusal hSeat hShows.fits hRefused
    rw [FileSystem.perform_rename, FileSystem.change_error hRename]
    exact ⟨rfl, hShows, .refl _ _⟩

/-- Sites without temporary files share no place, if their files stand at different places. -/
theorem Shows.disjoint {t : Site tag} (h : s.Shows fs cells) (h' : t.Shows fs cells')
    (hPlace : s.place ≠ t.place) (hVacant : cells.spare = none) (hVacant' : cells'.spare = none)
    (l : Location) (hOwns : s.Owns l) : ¬ t.Owns l := by
  have hEmpty : s.refusal? = none → fs.lookup? s.spare = none := by
    intro hFits
    rw [h.spare hFits, hVacant]
    rfl
  have hEmpty' : t.refusal? = none → fs.lookup? t.spare = none := by
    intro hFits
    rw [h'.spare hFits, hVacant']
    rfl
  rcases hOwns with rfl | ⟨hFits, rfl⟩
  · rintro (hSame | ⟨hFits', hSame⟩)
    · exact hPlace hSame
    · have hFile := h.file
      rw [hSame, hEmpty' hFits'] at hFile
      cases hFile
  · rintro (hSame | ⟨-, hSame⟩)
    · have hFile := h'.file
      rw [← hSame, hEmpty hFits] at hFile
      cases hFile
    · -- the names of the temporary files tell the files apart
      have hCons : temporaryName s.name tag :: s.dir = temporaryName t.name tag :: t.dir := hSame
      obtain ⟨hName, hDir⟩ := List.cons.inj hCons
      have hName' : s.name = t.name := temporaryName_injective hName
      exact hPlace (by rw [place, place, hName', hDir])

-- ---------------------------------------------------------------------------
-- Programs over the two cells
-- ---------------------------------------------------------------------------

variable {α β : Type}

/-- From the given cells on, the program makes only calls that are answered from the cells, and
its end satisfies the requirement. -/
def Meets (s : Site tag) (Q : α → Cells → Prop) : Program α → Cells → Prop
  | .done a, cells => Q a cells
  | .call c next, cells =>
    ∃ reply cells', s.Answers cells c reply cells' ∧ s.Meets Q (next reply) cells'

theorem Meets.bind {Q : β → Cells → Prop} {p : Program α} {f : α → Program β}
    (h : s.Meets (fun a cells' => s.Meets Q (f a) cells') p cells) :
    s.Meets Q (p >>= f) cells := by
  show s.Meets Q (p.bind f) cells
  induction p generalizing cells with
  | done a => exact h
  | call c next ih =>
    obtain ⟨reply, cells', hAnswers, hRest⟩ := h
    exact ⟨reply, cells', hAnswers, ih reply hRest⟩

theorem Meets.mono {Q Q' : α → Cells → Prop} {p : Program α} (h : s.Meets Q p cells)
    (hQ : ∀ a cells', Q a cells' → Q' a cells') : s.Meets Q' p cells := by
  induction p generalizing cells with
  | done a => exact hQ a cells h
  | call c next ih =>
    obtain ⟨reply, cells', hAnswers, hRest⟩ := h
    exact ⟨reply, cells', hAnswers, ih reply hRest⟩

theorem Answers.meets {c : Call} {reply : c.Reply} {Q : c.Reply → Cells → Prop}
    (h : s.Answers cells c reply cells') (hQ : Q reply cells') :
    s.Meets Q (Program.ask c) cells :=
  ⟨reply, cells', h, hQ⟩

end Site

end LicenseAudit
