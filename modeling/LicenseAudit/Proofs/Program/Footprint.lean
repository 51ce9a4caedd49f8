import LicenseAudit.Proofs.Program.Fault
import LicenseAudit.Proofs.Program.Replace

/-!
# Programs that keep to a site

A program that works at one site only is answered from the two cells of the site. How it ends and
what it leaves in the cells is therefore settled by the cells that it starts from, whatever stands
elsewhere.

* `Site.Reaches` — the calls that work at a site;
* `Site.Settles` — what a program answers and leaves, from the given cells on.

## Results

* `Reaches.exists_answer` — every such call is answered, also one that fails.
* `exists_settles` — every program of such calls settles.
* `Meets.run`, `Settles.run` — the file system does what is met in the cells, and alters nothing
  else.
* `Shows.lookup?_eq` — equal cells show the same entries.
-/

namespace LicenseAudit.Site

variable {tag : Nat} {s : Site tag} {fs fs' : FileSystem} {cells after : Cells} {α β : Type}

/-- The calls that work at a site: the file is read and looked at; the temporary file is written, is
given permission bits, is moved over the file and is removed. -/
inductive Reaches (s : Site tag) : Call → Prop where
  | read : s.Reaches (.read s.path)
  | status : s.Reaches (.status s.path)
  | write (content : Bytes) : s.Reaches (.write s.temporary content)
  | setMode (mode : Nat) : s.Reaches (.setMode s.temporary mode)
  | rename : s.Reaches (.rename s.temporary s.path)
  | remove : s.Reaches (.remove s.temporary)

/-- A call that works at a site works there with any content. -/
theorem Reaches.write_any {p : Path} {content : Bytes} (h : s.Reaches (.write p content))
    (content' : Bytes) : s.Reaches (.write p content') := by
  cases h with
  | write => exact .write content'

/-- A call that works at a site is answered from the cells, whatever they hold. -/
theorem Reaches.exists_answer {c : Call} (h : s.Reaches c) (cells : Cells) :
    ∃ reply after, s.Answers cells c reply after := by
  cases hRefusal : s.refusal? with
  | some cause =>
    cases h with
    | read => exact ⟨_, _, .read⟩
    | status => exact ⟨_, _, .status⟩
    | write content => exact ⟨_, _, .refuseWrite hRefusal content⟩
    | setMode mode => exact ⟨_, _, .refuseSetMode hRefusal mode⟩
    | rename => exact ⟨_, _, .refuseRename hRefusal⟩
    | remove => exact ⟨_, _, .refuseRemove hRefusal⟩
  | none =>
    cases hSpare : cells.spare with
    | none =>
      cases h with
      | read => exact ⟨_, _, .read⟩
      | status => exact ⟨_, _, .status⟩
      | write content => exact ⟨_, _, .write hRefusal hSpare content⟩
      | setMode mode => exact ⟨_, _, .missSetMode hRefusal hSpare mode⟩
      | rename => exact ⟨_, _, .missRename hRefusal hSpare⟩
      | remove => exact ⟨_, _, .missRemove hRefusal hSpare⟩
    | some found =>
      cases h with
      | read => exact ⟨_, _, .read⟩
      | status => exact ⟨_, _, .status⟩
      | write content => exact ⟨_, _, .writeOver hRefusal hSpare content⟩
      | setMode mode => exact ⟨_, _, .setMode hRefusal hSpare mode⟩
      | rename => exact ⟨_, _, .rename hRefusal hSpare⟩
      | remove => exact ⟨_, _, .remove hRefusal hSpare⟩

-- ---------------------------------------------------------------------------
-- What a program settles
-- ---------------------------------------------------------------------------

/-- From the given cells on, the program gives this answer and leaves these cells. -/
def Settles (s : Site tag) (p : Program α) (cells : Cells) (a : α) (after : Cells) : Prop :=
  s.Meets (fun b left => b = a ∧ left = after) p cells

/-- A program of calls that work at a site settles. -/
theorem exists_settles {p : Program α} (h : p.Only s.Reaches) (cells : Cells) :
    ∃ a after, s.Settles p cells a after := by
  induction p generalizing cells with
  | done a => exact ⟨a, cells, rfl, rfl⟩
  | call c next ih =>
    obtain ⟨reply, cells', hAnswers⟩ := h.1.exists_answer cells
    obtain ⟨a, after, hRest⟩ := ih reply (h.2 reply) cells'
    exact ⟨a, after, reply, cells', hAnswers, hRest⟩

/-- What a program meets in the cells is so on the disk, and nothing changes beside them. -/
theorem Meets.run {Q : α → Cells → Prop} {p : Program α} (h : s.Meets Q p cells)
    (hShows : s.Shows fs cells) :
    ∃ after, Q (p.run fs).1 after ∧ s.Shows (p.run fs).2 after ∧
      FileSystem.Alters s.Owns fs (p.run fs).2 := by
  induction p generalizing fs cells with
  | done a => exact ⟨cells, h, hShows, .refl _ _⟩
  | call c next ih =>
    obtain ⟨reply, cells', hAnswers, hRest⟩ := h
    obtain ⟨rfl, hShows', hStep⟩ := hAnswers.perform hShows
    obtain ⟨after, hEnd, hAfter, hAlters⟩ := ih _ hRest hShows'
    exact ⟨after, hEnd, hAfter, hStep.trans hAlters⟩

/-- The file system does what was settled, and alters nothing beside the cells. -/
theorem Settles.run {p : Program α} {a : α} (h : s.Settles p cells a after)
    (hShows : s.Shows fs cells) :
    (p.run fs).1 = a ∧ s.Shows (p.run fs).2 after ∧
      FileSystem.Alters s.Owns fs (p.run fs).2 := by
  obtain ⟨left, ⟨hAnswer, rfl⟩, hAfter, hAlters⟩ := Meets.run h hShows
  exact ⟨hAnswer, hAfter, hAlters⟩

/-- Where two file systems show the same cells, the same entries stand. -/
theorem Shows.lookup?_eq (h : s.Shows fs cells) (h' : s.Shows fs' cells) {l : Location}
    (hOwns : s.Owns l) : fs'.lookup? l = fs.lookup? l := by
  rcases hOwns with rfl | ⟨hFits, rfl⟩
  · rw [h.file, h'.file]
  · rw [h.spare hFits, h'.spare hFits]

-- ---------------------------------------------------------------------------
-- Replacements
-- ---------------------------------------------------------------------------

/-- The installation of a temporary file keeps to its site. -/
theorem only_installTemporary (mode? : Option Nat) (content : Bytes) :
    (Program.installTemporary s.temporary s.path mode? content).Only s.Reaches := by
  refine Program.Only.bind (Program.only_ask (.write content)) fun written => ?_
  cases written with
  | error cause => exact Program.only_pure _
  | ok done =>
    cases mode? with
    | none => exact Program.only_ask .rename
    | some mode =>
      refine Program.Only.bind (Program.only_ask (.setMode mode)) fun set => ?_
      cases set with
      | error cause => exact Program.only_pure _
      | ok done => exact Program.only_ask .rename

theorem only_replaceVia (mode? : Option Nat) (content : Bytes) :
    (Program.replaceVia s.temporary s.path mode? content).Only s.Reaches := by
  refine (only_installTemporary mode? content).bind fun installed => ?_
  cases installed with
  | ok done => exact Program.only_pure _
  | error cause =>
    exact Program.Only.bind (Program.only_ask .remove) fun _ => Program.only_pure _

/-- A replacement keeps to its site. -/
theorem only_replace (content : Bytes) :
    (Program.replace tag s.path content).Only s.Reaches := by
  refine Program.Only.bind (Program.only_ask .status) fun found => ?_
  cases found with
  | ok status => exact only_replaceVia _ content
  | error cause =>
    by_cases hMissing : cause = .noEntry
    · simp only [hMissing, if_true]
      exact only_replaceVia none content
    · simp only [if_neg hMissing]
      exact Program.only_pure _

end LicenseAudit.Site
