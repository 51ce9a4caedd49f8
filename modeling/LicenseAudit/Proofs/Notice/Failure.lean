import LicenseAudit.Proofs.Notice.Document
import LicenseAudit.Proofs.Program.Failure

/-!
# Operations on a notice document that fail

The operations on a notice document look for its range first, and in the same way. So they fail for
the same reasons up to there, each in its turn: the year of a repair is looked at before the
document, the document is read, decoded and searched, and only then is it replaced. Any call can
fail on the way, but a repair that fails has changed nothing that was there.

* `Notice.found` — the range that is found, or why none is;
* `Notice.Unfit` — the documents without a range, and the error that tells of each;
* `Notice.Answered` — the ways in which a repair answers;
* `Notice.Blames` — the errors of a repair, and when it ends with each;
* `Notice.FailsCleanly` — the errors of all operations, and that nothing has changed.

## Results

* `run_failing_endYear`, `run_failing_lint`, `run_failing_fix` — the operations, by what is found.
* `found_eq_error_iff` — what is found is an error exactly for the documents without a range.
* `answered_fix`, `Answered.blames` — a repair answers in one of these ways, for one cause.
* `fails_cleanly` — each error has its cause, and no operation that fails changes anything.
-/

namespace LicenseAudit

open Text

variable {fs s : FileSystem} {tag : Nat} {faults : Call → Option Fault}

namespace Notice

open Program (shown)
open YearRange

variable {n : Notice} {e : NoticeError} {r : YearRange} {year : Int}

-- ---------------------------------------------------------------------------
-- What is found
-- ---------------------------------------------------------------------------

/-- The range that is found in the document, or why none is. -/
def found (n : Notice) (faults : Call → Option Fault) (fs : FileSystem) :
    Except NoticeError YearRange :=
  match shown faults fs n.path with
  | .error cause => .error (.read n.path cause)
  | .ok bytes =>
    match decode? bytes with
    | none => .error (.read n.path .notText)
    | some cs => n.rangeOf (String.ofList cs)

/-- A document without a range: it is not read, it is not UTF-8, or nowhere in it do the first year
and a hyphen stand before four digits. -/
inductive Unfit (n : Notice) (faults : Call → Option Fault) (fs : FileSystem) :
    NoticeError → Prop where
  | unread {cause : IoError} (hShown : shown faults fs n.path = .error cause) :
      Unfit n faults fs (.read n.path cause)
  | notText {bytes : Bytes} (hShown : shown faults fs n.path = .ok bytes)
      (hBytes : ∀ cs, bytes ≠ encode cs) : Unfit n faults fs (.read n.path .notText)
  | rangeless {cs : List Char} (hShown : shown faults fs n.path = .ok (encode cs))
      (hNone : ∀ digits, isYear digits = true → ¬ opening n.startYear ++ digits <:+: cs) :
      Unfit n faults fs (.noDateRange n.path n.startYear)

theorem found_eq_error_iff : n.found faults fs = .error e ↔ n.Unfit faults fs e := by
  unfold found
  constructor
  · intro hFound
    cases hShown : shown faults fs n.path with
    | error cause =>
      rw [hShown] at hFound
      rw [← Except.error.inj hFound]
      exact .unread hShown
    | ok bytes =>
      simp only [hShown] at hFound
      cases hText : decode? bytes with
      | none =>
        simp only [hText] at hFound
        rw [← Except.error.inj hFound]
        refine .notText hShown ?_
        rintro cs rfl
        rw [decode?_encode] at hText
        cases hText
      | some cs =>
        obtain rfl := decode?_eq_some_iff.mp hText
        simp only [hText, rangeOf, String.toList_ofList] at hFound
        cases hFind : find? n.startYear cs with
        | none =>
          simp only [hFind] at hFound
          rw [← Except.error.inj hFound]
          exact .rangeless hShown (findFrom?_eq_none_iff.mp hFind)
        | some r =>
          simp only [hFind] at hFound
          cases hFound
  · intro hUnfit
    cases hUnfit with
    | unread hShown => rw [hShown]
    | @notText bytes hShown hBytes =>
      have hText : decode? bytes = none := by
        rw [Option.eq_none_iff_forall_ne_some]
        intro cs hText
        exact hBytes cs (decode?_eq_some_iff.mp hText)
      simp only [hShown, hText]
    | rangeless hShown hNone =>
      have hFind : find? n.startYear _ = none := findFrom?_eq_none_iff.mpr hNone
      simp only [hShown, decode?_encode, rangeOf, String.toList_ofList, hFind]

/-- A document is unfit for one reason. -/
theorem Unfit.unique {e' : NoticeError} (h : n.Unfit faults fs e) (h' : n.Unfit faults fs e') :
    e = e' :=
  Except.error.inj ((found_eq_error_iff.mpr h).symm.trans (found_eq_error_iff.mpr h'))

/-- The range that is found is the one in the text of the document. -/
theorem exists_text_of_found (h : n.found faults fs = .ok r) :
    ∃ cs, fs.read n.path = .ok (encode cs) ∧ find? n.startYear cs = some r := by
  unfold found at h
  cases hShown : shown faults fs n.path with
  | error cause =>
    rw [hShown] at h
    cases h
  | ok bytes =>
    simp only [hShown] at h
    cases hText : decode? bytes with
    | none =>
      rw [hText] at h
      cases h
    | some cs =>
      obtain rfl := decode?_eq_some_iff.mp hText
      simp only [hText, rangeOf, String.toList_ofList] at h
      refine ⟨cs, Program.read_of_shown hShown, ?_⟩
      cases hFind : find? n.startYear cs with
      | none =>
        rw [hFind] at h
        cases h
      | some r' =>
        rw [hFind] at h
        rw [Except.ok.inj h]

/-- A range is found in a document that can be read. -/
theorem exists_read_of_found (h : n.found faults fs = .ok r) :
    ∃ old, fs.read n.path = .ok old := by
  obtain ⟨cs, hRead, -⟩ := exists_text_of_found h
  exact ⟨_, hRead⟩

-- ---------------------------------------------------------------------------
-- The operations
-- ---------------------------------------------------------------------------

/-- The search for the range of a document. -/
theorem run_failing_endYear (n : Notice) (faults : Call → Option Fault) (fs : FileSystem) :
    (n.endYear.failing faults).run fs = (n.found faults fs, fs) := by
  rw [endYear, Program.failing_bind, Program.run_bind, readText, Program.failing_bind,
    Program.run_bind, Program.run_failing_readText, found]
  cases shown faults fs n.path with
  | error cause => rfl
  | ok bytes =>
    simp only [Except.bind]
    cases decode? bytes <;> rfl

/-- The check of a document, by what is found in it. -/
theorem run_failing_lint (n : Notice) (faults : Call → Option Fault) (fs : FileSystem)
    (year : Int) :
    ((n.lint year).failing faults).run fs =
      ((n.found faults fs).bind fun r =>
        if (r.year : Int) = year then .ok () else .error (.yearMismatch r.year year), fs) := by
  rw [lint, Program.failing_bind, Program.run_bind, run_failing_endYear]
  cases n.found faults fs with
  | error e => rfl
  | ok r =>
    simp only [Except.bind]
    split <;> rfl

/-- The repair of a document, by its year and what is found in it. -/
theorem run_failing_fix (tag : Nat) (n : Notice) (faults : Call → Option Fault) (fs : FileSystem)
    (year : Int) :
    ((n.fix tag year).failing faults).run fs =
      if isFourDigitYear year = true then
        match n.found faults fs with
        | .error e => (.error e, fs)
        | .ok r =>
          match ((Program.replace tag n.path (encode (r.setEnd year))).failing faults).run fs with
          | (.ok (), s) => (.ok ⟨r.year, year⟩, s)
          | (.error cause, s) => (.error (.write n.path cause), s)
      else (.error (.invalidYear year), fs) := by
  unfold fix
  cases isFourDigitYear year with
  | false => rfl
  | true =>
    simp only [Bool.not_true, Bool.false_eq_true, if_false, if_true, Program.failing_bind,
      Program.run_bind, run_failing_endYear]
    cases n.found faults fs with
    | error e => rfl
    | ok r =>
      simp only [Program.failing_bind, Program.run_bind]
      generalize ((Program.replace tag n.path _).failing faults).run fs = x
      obtain ⟨reply, s⟩ := x
      cases reply <;> rfl

-- ---------------------------------------------------------------------------
-- Errors
-- ---------------------------------------------------------------------------

/-- The error tells that the document is unfit: that it cannot be read, or holds no range. -/
def OfDocument : NoticeError → Prop
  | .read _ _ | .noDateRange _ _ => True
  | .write _ _ | .yearMismatch _ _ | .invalidYear _ => False

theorem Unfit.ofDocument (h : n.Unfit faults fs e) : OfDocument e := by
  cases h <;> trivial

/-- The errors that a repair ends with, and when it ends with each. -/
structure Blames (n : Notice) (faults : Call → Option Fault) (fs : FileSystem) (year : Int)
    (fixed : Except NoticeError FixedYear) : Prop where
  invalidYear : ∀ y, fixed = .error (.invalidYear y) ↔ y = year ∧ ¬ (1000 ≤ year ∧ year ≤ 9999)
  document    : ∀ e, OfDocument e →
    (fixed = .error e ↔ (1000 ≤ year ∧ year ≤ 9999) ∧ n.Unfit faults fs e)
  other       : ∀ e, fixed = .error e →
    e = .invalidYear year ∨ OfDocument e ∨ ∃ cause, e = .write n.path cause

/-- No operation on the document that fails changes anything, and each error has its cause. The
check and the search change nothing at all, and they find the document unfit where a repair does,
if its year is in order. -/
structure FailsCleanly (tag : Nat) (n : Notice) (faults : Call → Option Fault) (fs : FileSystem)
    (year : Int) : Prop where
  spares  : ∀ e s, ((n.fix tag year).failing faults).run fs = (.error e, s) →
    Program.Spared faults tag n.path fs s
  blames  : n.Blames faults fs year (((n.fix tag year).failing faults).run fs).1
  endYear : ((n.endYear.failing faults).run fs).2 = fs ∧
    ∀ e, ((n.endYear.failing faults).run fs).1 = .error e ↔ n.Unfit faults fs e
  lint    : (((n.lint year).failing faults).run fs).2 = fs ∧
    ∀ e, OfDocument e →
      ((((n.lint year).failing faults).run fs).1 = .error e ↔ n.Unfit faults fs e)

/-- A repair that fails spares everything. -/
theorem fix_spares (hTree : fs.WellFormed)
    (hVacant : ∀ st, fs.linkStatus (n.path.temporarySibling tag) ≠ .ok st)
    (hPlain : ∀ st, fs.linkStatus n.path = .ok st → st.kind ≠ .link)
    (hError : ((n.fix tag year).failing faults).run fs = (.error e, s)) :
    Program.Spared faults tag n.path fs s := by
  have hStart := Program.Spared.refl faults tag n.path fs
  rw [run_failing_fix] at hError
  split at hError
  · cases hFound : n.found faults fs with
    | error e' =>
      rw [hFound] at hError
      exact (Prod.mk.inj hError).2 ▸ hStart
    | ok r =>
      simp only [hFound] at hError
      obtain ⟨old, hRead⟩ := exists_read_of_found hFound
      cases hReplace : ((Program.replace tag n.path (encode (r.setEnd year))).failing faults).run
          fs with
      | mk reply s' =>
        rw [hReplace] at hError
        cases reply with
        | ok done => cases hError
        | error cause =>
          obtain rfl := (Prod.mk.inj hError).2
          exact Program.replace_spares hTree hRead hVacant hPlain hReplace
  · exact (Prod.mk.inj hError).2 ▸ hStart

/-- The ways in which a repair answers. -/
inductive Answered (n : Notice) (faults : Call → Option Fault) (fs : FileSystem) (year : Int) :
    Except NoticeError FixedYear → Prop where
  | invalidYear (hYear : ¬ (1000 ≤ year ∧ year ≤ 9999)) :
      Answered n faults fs year (.error (.invalidYear year))
  | unfit {e : NoticeError} (hYear : 1000 ≤ year ∧ year ≤ 9999) (hUnfit : n.Unfit faults fs e) :
      Answered n faults fs year (.error e)
  | unwritten {r : YearRange} (cause : IoError) (hYear : 1000 ≤ year ∧ year ≤ 9999)
      (hFound : n.found faults fs = .ok r) :
      Answered n faults fs year (.error (.write n.path cause))
  | fixed {r : YearRange} (hYear : 1000 ≤ year ∧ year ≤ 9999)
      (hFound : n.found faults fs = .ok r) : Answered n faults fs year (.ok ⟨r.year, year⟩)

theorem answered_fix (tag : Nat) (n : Notice) (faults : Call → Option Fault) (fs : FileSystem)
    (year : Int) :
    n.Answered faults fs year (((n.fix tag year).failing faults).run fs).1 := by
  rw [run_failing_fix]
  split
  · rename_i hFour
    have hYear := isFourDigitYear_iff.mp hFour
    cases hFound : n.found faults fs with
    | error e => exact .unfit hYear (found_eq_error_iff.mp hFound)
    | ok r =>
      simp only
      generalize ((Program.replace tag n.path _).failing faults).run fs = x
      obtain ⟨reply, s⟩ := x
      cases reply with
      | ok done => exact .fixed hYear hFound
      | error cause => exact .unwritten cause hYear hFound
  · rename_i hFour
    exact .invalidYear (mt isFourDigitYear_iff.mpr hFour)

/-- Where a range is found the document is not unfit. -/
theorem not_unfit_of_found (h : n.found faults fs = .ok r) : ¬ n.Unfit faults fs e := by
  intro hUnfit
  rw [found_eq_error_iff.mpr hUnfit] at h
  cases h

/-- Every answer has its one cause. -/
theorem Answered.blames {fixed : Except NoticeError FixedYear}
    (h : n.Answered faults fs year fixed) : n.Blames faults fs year fixed := by
  cases h with
  | invalidYear hYear =>
    refine ⟨fun y => ?_, fun e hDocument => ?_, fun e hSame => ?_⟩
    · rw [Except.error.injEq, NoticeError.invalidYear.injEq, and_iff_left hYear, eq_comm]
    · refine iff_of_false ?_ fun hBoth => hYear hBoth.1
      rintro ⟨⟩
      exact hDocument
    · exact Or.inl (Except.error.inj hSame).symm
  | @unfit e hYear hUnfit =>
    refine ⟨fun y => ?_, fun e' hDocument => ?_, fun e' hSame => ?_⟩
    · refine iff_of_false ?_ fun hBoth => hBoth.2 hYear
      rintro ⟨⟩
      exact hUnfit.ofDocument
    · rw [Except.error.injEq, and_iff_right hYear]
      exact ⟨fun hSame => hSame ▸ hUnfit, fun hUnfit' => hUnfit.unique hUnfit'⟩
    · rw [← Except.error.inj hSame]
      exact Or.inr (Or.inl hUnfit.ofDocument)
  | unwritten cause hYear hFound =>
    refine ⟨fun y => ?_, fun e hDocument => ?_, fun e hSame => ?_⟩
    · exact iff_of_false nofun fun hBoth => hBoth.2 hYear
    · refine iff_of_false ?_ fun hBoth => not_unfit_of_found hFound hBoth.2
      rintro ⟨⟩
      exact hDocument
    · exact Or.inr (Or.inr ⟨cause, (Except.error.inj hSame).symm⟩)
  | fixed hYear hFound =>
    refine ⟨fun y => ?_, fun e hDocument => ?_, nofun⟩
    · exact iff_of_false nofun fun hBoth => hBoth.2 hYear
    · exact iff_of_false nofun fun hBoth => not_unfit_of_found hFound hBoth.2

/-- The check fails with what the search fails with, or for the year that it finds. -/
theorem lint_eq_error_iff (hDocument : OfDocument e) :
    (((n.lint year).failing faults).run fs).1 = .error e ↔ n.Unfit faults fs e := by
  rw [run_failing_lint]
  cases hFound : n.found faults fs with
  | error e' =>
    rw [← found_eq_error_iff, hFound]
    simp only [Except.bind, Except.error.injEq]
  | ok r =>
    refine iff_of_false ?_ (not_unfit_of_found hFound)
    simp only [Except.bind]
    split
    · exact nofun
    · rintro ⟨⟩
      exact hDocument

/-- **An operation on the document that fails changes nothing**, whichever of its calls fail, and
its error tells why it has failed. -/
theorem fails_cleanly (hTree : fs.WellFormed)
    (hVacant : ∀ st, fs.linkStatus (n.path.temporarySibling tag) ≠ .ok st)
    (hPlain : ∀ st, fs.linkStatus n.path = .ok st → st.kind ≠ .link)
    (faults : Call → Option Fault) (year : Int) : n.FailsCleanly tag faults fs year where
  spares  := fun _ _ hError => fix_spares hTree hVacant hPlain hError
  blames  := (answered_fix tag n faults fs year).blames
  endYear := by
    rw [run_failing_endYear]
    exact ⟨rfl, fun e => found_eq_error_iff⟩
  lint    := by
    refine ⟨?_, fun e => lint_eq_error_iff⟩
    rw [run_failing_lint]

/-- A document with a range. -/
def rangedTree : FileSystem := ⟨[(["NOTICE"], .file (encode "2018-2023\n".toList) 0o644)], []⟩

def rangedNotice : Notice := ⟨⟨"NOTICE"⟩, 2018⟩

/-- Where the new document cannot be moved into place everything is as it was. -/
theorem fails_cleanly_immovable :
    rangedTree.WellFormed ∧
      (∀ st, rangedTree.linkStatus (rangedNotice.path.temporarySibling 0) ≠ .ok st) ∧
      (∀ st, rangedTree.linkStatus rangedNotice.path = .ok st → st.kind ≠ .link) ∧
      ((rangedNotice.fix 0 2025).failing Program.immovable).run rangedTree =
        (.error (.write ⟨"NOTICE"⟩ (.system 5)), rangedTree) := by
  have hTree : rangedTree.WellFormed := .of_entries (by decide) (by decide)
  have hSpare : rangedTree.linkStatus (rangedNotice.path.temporarySibling 0) =
      .error .noEntry := by decide
  have hVacant : ∀ st, rangedTree.linkStatus (rangedNotice.path.temporarySibling 0) ≠ .ok st := by
    intro st
    rw [hSpare]
    exact nofun
  have hOwn : rangedTree.linkStatus rangedNotice.path = .ok ⟨.file, 0o644⟩ := by decide
  have hPlain : ∀ st, rangedTree.linkStatus rangedNotice.path = .ok st → st.kind ≠ .link := by
    intro st hStatus
    rw [← Except.ok.inj (hOwn.symm.trans hStatus)]
    exact nofun
  have hReply : (((rangedNotice.fix 0 2025).failing Program.immovable).run rangedTree).1 =
      .error (.write ⟨"NOTICE"⟩ (.system 5)) := by decide +kernel
  have hSpares := (fails_cleanly hTree hVacant hPlain Program.immovable 2025).spares
  refine ⟨hTree, hVacant, hPlain, ?_⟩
  generalize ((rangedNotice.fix 0 2025).failing Program.immovable).run rangedTree = x
    at hReply hSpares ⊢
  obtain ⟨reply, s⟩ := x
  obtain rfl : reply = .error (.write ⟨"NOTICE"⟩ (.system 5)) := hReply
  rw [(hSpares _ _ rfl).removed rfl]

end Notice

end LicenseAudit
