import LicenseAudit.Proofs.Program.Footprint
import LicenseAudit.Proofs.Program.Refusal

/-!
# What a replacement leaves at its site

A replacement that fails leaves the file alone. Its temporary file is removed, unless the removal
fails as well; then the temporary file stays, with the whole new content or, if the write stopped
short, with the beginning of it. All this shows in the two cells of its site.

* `Remnant` — what can be left of a content that was written;
* `Removable` — a file that can be removed if it can be written;
* `Site.Left` — the ways in which a replacement ends, from given cells on.

## Results

* `meets_replace` — a replacement ends in one of these ways, whichever of its calls fail.
-/

namespace LicenseAudit

/-- What can be left of a content that was written: the whole content, or the beginning of it at
which the write stopped short. -/
def Remnant (faults : Call → Option Fault) (q : Path) (content part : Bytes) : Prop :=
  (faults (.write q content) = none ∧ part = content) ∨
    ∃ cause size, faults (.write q content) = some (.torn cause size) ∧ part = content.take size

/-- The file can be removed, if anything can be written to it at all. -/
def Removable (faults : Call → Option Fault) (q : Path) : Prop :=
  faults (.remove q) = none ∨ ∀ content, ∃ cause, faults (.write q content) = some (.refused cause)

/-- Whoever lacks the permission to remove a file may not write it either. -/
theorem ByPermission.removable_refused {refusals : Call → Option IoError}
    (h : ByPermission refusals) (q : Path) : Removable (fun c => (refusals c).map .refused) q := by
  cases hRemoval : refusals (.remove q) with
  | none => exact Or.inl (congrArg _ hRemoval)
  | some cause =>
    refine Or.inr fun content => ?_
    cases hWrite : refusals (.write q content) with
    | none => cases hRemoval.symm.trans (h.removable q content hWrite)
    | some cause => exact ⟨cause, congrArg _ hWrite⟩

/-- A file that can be removed leaves nothing. -/
theorem Remnant.not_removable {faults : Call → Option Fault} {q : Path} {content part : Bytes}
    (h : Remnant faults q content part) (hRemoval : faults (.remove q) ≠ none) :
    ¬ Removable faults q := by
  rintro (hNone | hRefused)
  · exact hRemoval hNone
  · obtain ⟨cause, hWrite⟩ := hRefused content
    rcases h with ⟨hMade, -⟩ | ⟨cause', size, hTorn, -⟩
    · cases hMade.symm.trans hWrite
    · cases hTorn.symm.trans hWrite

namespace Site

variable {tag : Nat} {s : Site tag} {faults : Call → Option Fault} {before cells : Cells}

-- ---------------------------------------------------------------------------
-- Single calls
-- ---------------------------------------------------------------------------

/-- A call that is no write is answered from the cells, or fails and leaves them. -/
theorem meets_failing {c : Call} {Q : c.Reply → Cells → Prop} (hReaches : s.Reaches c)
    (hQuiet : c.writes = false)
    (hMade : faults c = none → ∀ reply after, s.Answers cells c reply after → Q reply after)
    (hFails : ∀ fault, faults c = some fault →
      ∃ reply, c.failure? fault.cause = some reply ∧ Q reply cells) :
    s.Meets Q ((Program.ask c).failing faults) cells := by
  rw [Program.failing_ask]
  cases hFault : faults c with
  | none =>
    obtain ⟨reply, after, hAnswers⟩ := hReaches.exists_answer cells
    exact hAnswers.meets (hMade hFault reply after hAnswers)
  | some fault =>
    obtain ⟨reply, hReply, hEnd⟩ := hFails fault hFault
    rw [c.under_eq_pure hQuiet hReply]
    exact hEnd

/-- The temporary file may have been written, in whole or in part, and is not in its place. -/
inductive Attempted (s : Site tag) (faults : Call → Option Fault) (content : Bytes)
    (before : Cells) : Cells → Prop where
  | untouched : Attempted s faults content before before
  | written {part : Bytes} {mode : Nat} (hFits : s.refusal? = none)
      (hRemnant : Remnant faults s.temporary content part) :
      Attempted s faults content before { before with spare := some (part, mode) }

/-- A write at a site makes the temporary file, or is refused. -/
theorem Answers.of_write {content : Bytes} {reply : Except IoError Unit} {after : Cells}
    (h : s.Answers cells (.write s.temporary content) reply after) :
    (reply = .ok () ∧ s.refusal? = none ∧
      ∃ mode, after = { cells with spare := some (content, mode) }) ∨
    ∃ cause, reply = .error cause ∧ after = cells := by
  cases h with
  | write hFits | writeOver hFits => exact Or.inl ⟨rfl, hFits, _, rfl⟩
  | refuseWrite => exact Or.inr ⟨_, rfl, rfl⟩

/-- The write of the temporary file, which may fail and stop short. -/
theorem meets_write (content : Bytes) :
    s.Meets (fun reply after =>
        (reply = .ok () ∧ faults (.write s.temporary content) = none ∧ s.refusal? = none ∧
          ∃ mode, after = { cells with spare := some (content, mode) }) ∨
        (∃ cause, reply = .error cause) ∧ s.Attempted faults content cells after)
      ((Program.write s.temporary content).failing faults) cells := by
  have hReaches : ∀ content, s.Reaches (.write s.temporary content) := .write
  rw [Program.write, Program.failing_ask]
  cases hFault : faults (.write s.temporary content) with
  | none =>
    obtain ⟨reply, after, hAnswers⟩ := (hReaches content).exists_answer cells
    refine hAnswers.meets ?_
    rcases hAnswers.of_write with ⟨hReply, hFits, hThere⟩ | ⟨cause, hReply, rfl⟩
    · exact Or.inl ⟨hReply, rfl, hFits, hThere⟩
    · exact Or.inr ⟨⟨cause, hReply⟩, .untouched⟩
  | some fault =>
    cases fault with
    | refused cause => exact Or.inr ⟨⟨cause, rfl⟩, .untouched⟩
    | torn cause size =>
      obtain ⟨reply, after, hAnswers⟩ := (hReaches (content.take size)).exists_answer cells
      refine Meets.bind (hAnswers.meets ?_)
      rcases hAnswers.of_write with ⟨rfl, hFits, mode, rfl⟩ | ⟨refusal, rfl, rfl⟩
      · exact Or.inr ⟨⟨cause, rfl⟩, .written hFits (Or.inr ⟨cause, size, hFault, rfl⟩)⟩
      · exact Or.inr ⟨⟨refusal, rfl⟩, .untouched⟩

-- ---------------------------------------------------------------------------
-- Replacements
-- ---------------------------------------------------------------------------

/-- A temporary file is installed, or the attempt has failed. -/
def Installs (s : Site tag) (faults : Call → Option Fault) (content : Bytes) (mode? : Option Nat)
    (before : Cells) : Except IoError Unit → Cells → Prop
  | .ok (), after => ∃ mode, (∀ wanted, mode? = some wanted → mode = wanted) ∧
      after = ⟨content, mode, none⟩
  | .error _, after => s.Attempted faults content before after

/-- What was written is moved into its place. -/
theorem meets_rename {content : Bytes} {mode? : Option Nat} {mode : Nat}
    (hMade : faults (.write s.temporary content) = none) (hFits : s.refusal? = none)
    (hMode : ∀ wanted, mode? = some wanted → mode = wanted) :
    s.Meets (s.Installs faults content mode? before)
      ((Program.rename s.temporary s.path).failing faults)
      { before with spare := some (content, mode) } := by
  have hWritten : s.Attempted faults content before { before with spare := some (content, mode) } :=
    .written hFits (Or.inl ⟨hMade, rfl⟩)
  refine meets_failing .rename rfl (fun _ reply after hAnswers => ?_) fun fault _ =>
    ⟨_, rfl, hWritten⟩
  cases hAnswers with
  | rename _ hSpare =>
    cases hSpare
    exact ⟨mode, hMode, rfl⟩
  | missRename _ hVacant => cases hVacant
  | refuseRename hRefused => cases hFits.symm.trans hRefused

theorem meets_installTemporary (mode? : Option Nat) (content : Bytes) :
    s.Meets (s.Installs faults content mode? cells)
      ((Program.installTemporary s.temporary s.path mode? content).failing faults) cells := by
  unfold Program.installTemporary
  rw [Program.failing_bind]
  refine Meets.bind ((meets_write content).mono ?_)
  rintro reply after (⟨rfl, hMade, hFits, mode, rfl⟩ | ⟨⟨cause, rfl⟩, hAttempted⟩)
  · cases mode? with
    | none => exact meets_rename hMade hFits fun _ hNone => by cases hNone
    | some wanted =>
      simp only [Program.failing_bind]
      refine Meets.bind (meets_failing (.setMode wanted) rfl (fun _ reply after hAnswers => ?_)
        fun fault _ => ⟨_, rfl, .written hFits (Or.inl ⟨hMade, rfl⟩)⟩)
      cases hAnswers with
      | setMode _ hSpare =>
        cases hSpare
        exact meets_rename hMade hFits fun _ hSome => Option.some.inj hSome
      | missSetMode _ hVacant => cases hVacant
      | refuseSetMode hRefused => cases hFits.symm.trans hRefused
  · exact hAttempted

/-- The ways in which a replacement ends. It has failed unless the new content is in place, and then
the file is as it was. -/
inductive Left (s : Site tag) (faults : Call → Option Fault) (content : Bytes) (before : Cells) :
    Except IoError Unit → Cells → Prop where
  | replaced {mode : Nat} (hMode : Program.Admits faults s.path → mode = before.mode) :
      Left s faults content before (.ok ()) ⟨content, mode, none⟩
  | spared {cause : IoError} : Left s faults content before (.error cause) before
  | cleared {cause : IoError} :
      Left s faults content before (.error cause) { before with spare := none }
  | stranded {cause : IoError} {part : Bytes} {mode : Nat}
      (hRemoval : faults (.remove s.temporary) ≠ none)
      (hRemnant : Remnant faults s.temporary content part) :
      Left s faults content before (.error cause) { before with spare := some (part, mode) }

/-- What an attempt has left is removed, unless the removal fails. -/
theorem Attempted.meets_remove {content : Bytes} (h : s.Attempted faults content before cells)
    (cause : IoError) :
    s.Meets (fun _ after => s.Left faults content before (.error cause) after)
      ((Program.remove s.temporary).failing faults) cells := by
  cases h with
  | untouched =>
    refine meets_failing .remove rfl (fun _ reply after hAnswers => ?_) fun fault _ =>
      ⟨_, rfl, .spared⟩
    cases hAnswers with
    | remove => exact .cleared
    | refuseRemove | missRemove => exact .spared
  | written hFits hRemnant =>
    refine meets_failing .remove rfl (fun _ reply after hAnswers => ?_) fun fault hFault =>
      ⟨_, rfl, .stranded (by simp [hFault]) hRemnant⟩
    cases hAnswers with
    | remove => exact .cleared
    | refuseRemove hRefused => cases hFits.symm.trans hRefused
    | missRemove _ hVacant => cases hVacant

theorem meets_replaceVia (mode? : Option Nat) (content : Bytes)
    (hMode : Program.Admits faults s.path → mode? = some cells.mode) :
    s.Meets (s.Left faults content cells)
      ((Program.replaceVia s.temporary s.path mode? content).failing faults) cells := by
  rw [Program.replaceVia, Program.failing_bind]
  refine Meets.bind ((meets_installTemporary mode? content).mono ?_)
  rintro (cause | done) after hInstalls
  · simp only [Program.failing_bind]
    exact Meets.bind ((Attempted.meets_remove hInstalls cause).mono fun _ _ hLeft => hLeft)
  · obtain ⟨mode, hWanted, rfl⟩ := hInstalls
    exact .replaced fun hAdmits => hWanted _ (hMode hAdmits)

/-- **A replacement ends in one of these ways**, whichever of its calls fail and whatever the
temporary file has been before. -/
theorem meets_replace (faults : Call → Option Fault) (cells : Cells) (content : Bytes) :
    s.Meets (s.Left faults content cells)
      ((Program.replace tag s.path content).failing faults) cells := by
  rw [Program.replace, Program.failing_bind]
  refine Meets.bind (meets_failing .status rfl (fun _ reply after hAnswers => ?_)
    fun fault hFault => ⟨_, rfl, ?_⟩)
  · cases hAnswers with
    | status => exact meets_replaceVia (some cells.mode) content fun _ => rfl
  · -- only a disk that denies the file goes on without its permission bits
    simp only
    split_ifs with hNone
    · exact meets_replaceVia none content fun hAdmits => absurd hNone (hAdmits fault hFault)
    · exact .spared

end Site

end LicenseAudit
