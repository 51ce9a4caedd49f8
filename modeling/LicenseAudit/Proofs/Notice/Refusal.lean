import LicenseAudit.Proofs.Notice.Document
import LicenseAudit.Proofs.Program.Atomic
import LicenseAudit.Proofs.Program.Refusal

/-!
# Repairs of a notice document on a disk that refuses calls

The document may be one that cannot be read, or one beside which nothing can be written, or whose
temporary file cannot be moved. Its repair leaves no temporary file behind then, either, if what may
be written may be removed.

## Results

* `run_refusing_replace_snd` — a replacement that cannot write its temporary file changes nothing.
* `Notice.vacant_run_fix` — a repair of the document leaves no temporary file behind.
-/

namespace LicenseAudit

open Text

variable {tag : Nat} {fs : FileSystem} {refusals : Call → Option IoError}

namespace Program

variable {p : Path} {old content : Bytes}

/-- Where no place is taken by a temporary file, there is none to remove beside a file. -/
theorem exists_remove_error (hTree : fs.WellFormed) (hRead : fs.read p = .ok old)
    (hVacant : ∀ n dir, fs.lookup? (temporaryName n tag :: dir) = none) :
    ∃ cause, fs.remove (p.temporarySibling tag) = .error cause := by
  obtain ⟨dir, n, hSeat, -, -⟩ := FileSystem.exists_seat_of_read hTree hRead
  have hSibling := hSeat.temporarySibling tag
  cases hRefusal : (p.temporarySibling tag).refusal? (temporaryName n tag) with
  | none => exact ⟨_, hSibling.remove_of_vacant hRefusal (hVacant n dir)⟩
  | some cause => exact ⟨cause, hSibling.remove_of_refusal hRefusal⟩

/-- A replacement that cannot write its temporary file changes nothing if there is none. -/
theorem run_refusing_replace_snd {cause : IoError}
    (hWrite : refusals (.write (p.temporarySibling tag) content) = some cause)
    (hRemove : ∃ cause, fs.remove (p.temporarySibling tag) = .error cause) :
    (((replace tag p content).refusing refusals).run fs).2 = fs := by
  have hRefused : (write (p.temporarySibling tag) content).refusing refusals =
      pure (.error cause) := refusing_ask_eq_pure (by rw [hWrite]; rfl)
  have hInstall : ∀ mode?, (installTemporary (p.temporarySibling tag) p mode? content).refusing
      refusals = pure (.error cause) := by
    intro mode?
    rw [installTemporary.eq_def, refusing_bind, hRefused]
    rfl
  have hClear : (((remove (p.temporarySibling tag)).refusing refusals).run fs).2 = fs := by
    obtain ⟨refusal, hRemove⟩ := hRemove
    cases hRemoving : refusals (.remove (p.temporarySibling tag)) with
    | some other =>
      have hGone : (remove (p.temporarySibling tag)).refusing refusals = pure (.error other) :=
        refusing_ask_eq_pure (by rw [hRemoving]; rfl)
      rw [hGone]
      rfl
    | none =>
      rw [remove, refusing_ask_eq_ask (by rw [hRemoving]; rfl), run_ask, FileSystem.perform_remove,
        FileSystem.change_error hRemove]
  have hVia : ∀ mode?, (((replaceVia (p.temporarySibling tag) p mode? content).refusing
      refusals).run fs).2 = fs := by
    intro mode?
    rw [replaceVia, refusing_bind, hInstall, pure_bind]
    simp only [refusing_bind, run_bind, refusing_pure]
    exact hClear
  have hStatus : (status p).ReadOnly := only_ask rfl
  rw [replace, run_refusing_bind hStatus]
  cases (status p).answer (fs.reply refusals) with
  | ok s => exact hVia (some s.mode)
  | error refusal =>
    simp only
    split_ifs
    · exact hVia none
    · rfl

end Program

namespace Notice

variable {n : Notice} {r : YearRange}

theorem endYear_readOnly (n : Notice) : n.endYear.ReadOnly := by
  refine Program.Only.bind ?_ fun found => ?_
  · refine (Program.readText_readOnly n.path).bind fun text => ?_
    cases text <;> exact Program.only_pure _
  · cases found <;> exact Program.only_pure _

/-- A range is found in what was read. -/
theorem exists_reply_of_endYear {reply : (c : Call) → c.Reply}
    (h : n.endYear.answer reply = .ok r) : ∃ old, reply (.read n.path) = .ok old := by
  cases hReply : reply (.read n.path) with
  | ok old => exact ⟨old, rfl⟩
  | error cause =>
    simp only [endYear, readText, Program.readText, Program.answer_bind, Program.answer_read,
      hReply, Program.answer_pure] at h
    cases h

/-- A replacement of what could be read leaves no temporary file behind: it cannot write one, or it
can remove it. -/
theorem lookup?_run_refusing_replace (hTree : fs.WellFormed) (hPermission : ByPermission refusals)
    {p : Path} {old : Bytes} (hRead : fs.read p = .ok old)
    (hNames : ∀ m dir, fs.lookup? (temporaryName m tag :: dir) = none) (content : Bytes)
    (m : String) (dir : Location) :
    (((Program.replace tag p content).refusing refusals).run fs).2.lookup?
      (temporaryName m tag :: dir) = none := by
  cases hWrite : refusals (.write (p.temporarySibling tag) content) with
  | some cause =>
    rw [Program.run_refusing_replace_snd hWrite (Program.exists_remove_error hTree hRead hNames)]
    exact hNames m dir
  | none =>
    have hVacant := Program.vacant_beside hTree hRead hNames
    have hRemoval := hPermission.removable _ _ hWrite
    rw [Program.refusing_eq_failing]
    obtain ⟨-, mode, -, hSettles⟩ := (Program.within_replace hTree hVacant
      (fun c => (refusals c).map .refused) content).sound
    generalize ((Program.replace tag p content).failing _).run fs = x at hSettles ⊢
    obtain ⟨reply, s⟩ := x
    obtain ⟨hLands, hRemoved⟩ := hSettles
    cases reply with
    | error cause =>
      rw [hRemoved nofun (by simp [hRemoval])]
      exact hNames m dir
    | ok done =>
      -- the new content is in the place of the old one
      obtain ⟨d, n, hSeat, -, -, -, hPut⟩ := hLands
      obtain ⟨d', n', hSeat', -, hFile⟩ := FileSystem.exists_seat_of_read hTree hRead
      obtain ⟨rfl, rfl⟩ := hSeat.unique hSeat'
      simp only at hPut
      rw [hPut, FileSystem.lookup?_put fs (List.cons_ne_nil n d), if_neg, hNames m dir]
      intro hSame
      exact FileSystem.LeadsToFile.lookup?_ne_none hFile (hSame ▸ hNames m dir)

/-- **The repair of a document leaves no temporary file behind**, also where it may not be read,
nothing may be written beside it, or what is written may not be moved. -/
theorem vacant_run_fix (hTree : fs.WellFormed) (hPermission : ByPermission refusals)
    (hNames : ∀ m dir, fs.lookup? (temporaryName m tag :: dir) = none) (n : Notice) (year : Int)
    (m : String) (dir : Location) :
    (((n.fix tag year).refusing refusals).run fs).2.lookup? (temporaryName m tag :: dir) =
      none := by
  rw [fix]
  split_ifs with hYear
  · exact hNames m dir
  · rw [Program.run_refusing_bind n.endYear_readOnly]
    cases hRange : n.endYear.answer (fs.reply refusals) with
    | error cause => exact hNames m dir
    | ok r =>
      obtain ⟨old, hReply⟩ := exists_reply_of_endYear hRange
      have hAfter := lookup?_run_refusing_replace hTree hPermission
        (FileSystem.read_of_reply hReply) hNames (encode (r.setEnd year)) m dir
      simp only [Program.refusing_bind, Program.run_bind]
      revert hAfter
      generalize ((Program.replace tag n.path _).refusing refusals).run fs = x
      obtain ⟨reply, fs'⟩ := x
      intro hAfter
      cases reply <;> exact hAfter

end Notice

end LicenseAudit
