import LicenseAudit.Proofs.FileSystem.Lists
import LicenseAudit.Proofs.Notice.Document
import LicenseAudit.Proofs.Notice.Search

/-!
# Repairs of a notice document in turn

A repair changes the four digits of the end year and no other byte, and the range that it has
changed is the range that is found afterwards. So repairs do not add up: what the last one leaves is
what it would have left on its own.

* `YearRange.Splices` — bytes that differ in the digits of an end year;
* `Notice.Rewrites` — the file systems that writes of the document lead to;
* `Notice.Saves` — each of these writes succeeds and can be read;
* `Notice.Resets` — what a repair does to the bytes of the document, and to what is found in them.

## Results

* `Notice.saves_of_write` — beside a vacant place all writes of the document succeed if one does.
* `Notice.fix_resets` — a repair of a document with a range sets its end year and nothing else.
-/

namespace LicenseAudit

open Text

-- ---------------------------------------------------------------------------
-- Bytes of a range
-- ---------------------------------------------------------------------------

namespace YearRange

variable {cs : List Char} {r : YearRange} {startYear year : Int}

/-- A range whose end year is changed is the text as it is exactly if it ends with that year. -/
theorem setEnd_eq_text_iff (hDigits : isYear r.digits = true)
    (hYear : isFourDigitYear year = true) : r.setEnd year = r.text ↔ (r.year : Int) = year := by
  rw [YearRange.year, ← eq_yearText_iff hDigits hYear, setEnd, text, List.append_left_inj,
    List.append_right_inj, eq_comm]

/-- The second bytes are the first ones with the digits of the year where the range has its end
year. -/
structure Splices (r : YearRange) (year : Int) (old new : Bytes) : Prop where
  size   : new.length = old.length
  front  : new.take r.start = old.take r.start
  back   : new.drop r.stop = old.drop r.stop
  digits : (new.take r.stop).drop r.start = encode (yearText year)

theorem splices_setEnd (hDigits : isYear r.digits = true) (hYear : isFourDigitYear year = true) :
    r.Splices year (encode r.text) (encode (r.setEnd year)) := by
  have hSame : (encode (yearText year)).length = (encode r.digits).length := by
    rw [length_encode_of_isYear (yearText_spec hYear).1, length_encode_of_isYear hDigits]
  have hStop : r.stop = (encode r.before ++ encode r.digits).length := by
    rw [stop, start, List.length_append]
  have hStop' : r.stop = (encode r.before ++ encode (yearText year)).length := by
    rw [hStop, List.length_append, List.length_append, hSame]
  rw [text, setEnd, encode_append, encode_append, encode_append, encode_append]
  refine ⟨?_, ?_, ?_, ?_⟩
  · rw [List.length_append, List.length_append, List.length_append, List.length_append, hSame]
  · rw [List.append_assoc, List.append_assoc, start, List.take_left, List.take_left]
  · rw [List.drop_left' hStop.symm, List.drop_left' hStop'.symm]
  · rw [List.take_left' hStop'.symm, start, List.drop_left]

end YearRange

namespace Notice

open YearRange

variable {n : Notice} {fs fs' : FileSystem} {r : YearRange} {a b : Int} {tag : Nat}

-- ---------------------------------------------------------------------------
-- Writes that succeed
-- ---------------------------------------------------------------------------

/-- The file systems that writes of the document lead to. -/
inductive Rewrites (n : Notice) (tag : Nat) (fs : FileSystem) : FileSystem → Prop where
  | none : n.Rewrites tag fs fs
  | write {fs' : FileSystem} (h : n.Rewrites tag fs fs') (content : Bytes) :
      n.Rewrites tag fs ((Program.replace tag n.path content).run fs').2

/-- Writes of the document succeed, now and after each other, and what is written can be read. -/
def Saves (n : Notice) (tag : Nat) (fs : FileSystem) : Prop :=
  ∀ fs', n.Rewrites tag fs fs' → ∀ content,
    ((Program.replace tag n.path content).run fs').1 = .ok () ∧
      ((Program.replace tag n.path content).run fs').2.read n.path = .ok content

theorem Rewrites.of_write {content : Bytes}
    (h : n.Rewrites tag ((Program.replace tag n.path content).run fs).2 fs') :
    n.Rewrites tag fs fs' := by
  induction h with
  | none => exact .write .none content
  | write _ content' ih => exact .write ih content'

theorem Saves.after_write (h : n.Saves tag fs) (content : Bytes) :
    n.Saves tag ((Program.replace tag n.path content).run fs).2 :=
  fun _ hRewrites => h _ hRewrites.of_write

/-- The document can be written: it can be read, nothing stands in the way of its temporary file and
that one is not refused. -/
structure Writable (n : Notice) (tag : Nat) (fs : FileSystem) : Prop where
  tree   : fs.WellFormed
  read   : ∃ old, fs.read n.path = .ok old
  vacant : ∀ st, fs.linkStatus (n.path.temporarySibling tag) ≠ .ok st
  fits   : ∀ name, n.path.fileName? = some name →
    (n.path.temporarySibling tag).refusal? (temporaryName name tag) = none

/-- A document that can be written is written, and can be written again. -/
theorem Writable.write (h : n.Writable tag fs) (content : Bytes) :
    ((Program.replace tag n.path content).run fs).1 = .ok () ∧
      ((Program.replace tag n.path content).run fs).2.read n.path = .ok content ∧
      n.Writable tag ((Program.replace tag n.path content).run fs).2 := by
  have hStart := Program.workingDirectory_run (Program.replace tag n.path content) fs
  have hTree := Program.wellFormed_run (Program.replace tag n.path content) h.tree
  obtain ⟨old, hRead⟩ := h.read
  obtain ⟨dir, name, hSeat, -, -⟩ := FileSystem.exists_seat_of_read h.tree hRead
  have hFits := h.fits name hSeat.fileName?_eq
  obtain ⟨fs', hRun, hInstalled⟩ :=
    Program.exists_installed_of_fits h.tree hRead hSeat h.vacant hFits content
  rw [hRun] at hStart hTree ⊢
  refine ⟨rfl, hInstalled.read, hTree, ⟨content, hInstalled.read⟩, ?_, h.fits⟩
  -- the temporary file is gone, and its place is where it was
  obtain ⟨dir', name', hBefore, hAfter, -, -⟩ := hInstalled.exists_seat hStart
  obtain ⟨rfl, rfl⟩ := hSeat.unique hBefore
  have hVacant := (hSeat.temporarySibling tag).lookup?_eq_none hFits h.vacant
  exact (hAfter.temporarySibling tag).linkStatus_ne_ok (hInstalled.lookup?_eq_none hVacant)

theorem Writable.saves (h : n.Writable tag fs) : n.Saves tag fs := by
  intro fs' hRewrites content
  have hWritable : n.Writable tag fs' := by
    induction hRewrites with
    | none => exact h
    | write _ content' ih => exact (ih.write content').2.2
  obtain ⟨hDone, hRead, -⟩ := hWritable.write content
  exact ⟨hDone, hRead⟩

/-- If nothing stands at the temporary file's place and one write of the document succeeds, all of
them do. -/
theorem saves_of_write {old content : Bytes} (hTree : fs.WellFormed)
    (hRead : fs.read n.path = .ok old)
    (hVacant : ∀ st, fs.linkStatus (n.path.temporarySibling tag) ≠ .ok st)
    (hDone : ((Program.replace tag n.path content).run fs).1 = .ok ()) : n.Saves tag fs := by
  obtain ⟨dir, name, hSeat, -, -⟩ := FileSystem.exists_seat_of_read hTree hRead
  refine Writable.saves ⟨hTree, ⟨old, hRead⟩, hVacant, fun name' hName => ?_⟩
  obtain rfl : name = name' := Option.some.inj (hSeat.fileName?_eq.symm.trans hName)
  cases hRefusal : (n.path.temporarySibling tag).refusal? (temporaryName name tag) with
  | none => rfl
  | some cause =>
    rw [Program.run_replace_of_refusal hRead hSeat hRefusal content] at hDone
    cases hDone

-- ---------------------------------------------------------------------------
-- Exact repairs
-- ---------------------------------------------------------------------------

/-- Where writes succeed, a repair of a document with a range is its replacement by the text with
the other end year. -/
theorem Saves.fix (h : n.Saves tag fs) (hRange : (n.endYear.run fs).1 = .ok r)
    (ha : isFourDigitYear a = true) :
    ∃ fs', (n.fix tag a).run fs = (.ok ⟨r.year, a⟩, fs') ∧
      fs'.read n.path = .ok (encode (r.setEnd a)) ∧ n.Saves tag fs' := by
  obtain ⟨hDone, hRead⟩ := h fs .none (encode (r.setEnd a))
  refine ⟨_, ?_, hRead, h.after_write _⟩
  rw [run_fix_of_endYear ha hRange, hDone]

/-- A repaired document holds the same range with the other end year. -/
theorem endYear_after_fix (hRange : (n.endYear.run fs).1 = .ok r)
    (ha : isFourDigitYear a = true) (hRead : fs'.read n.path = .ok (encode (r.setEnd a))) :
    n.endYear.run fs' = (.ok ⟨r.before, yearText a, r.after⟩, fs') := by
  obtain ⟨cs, -, hFind⟩ := endYear_eq_ok_iff.mp hRange
  have hStay : (n.endYear.run fs').2 = fs' := by rw [run_endYear]
  refine Prod.ext (endYear_eq_ok_iff.mpr ⟨_, hRead, find?_setEnd ha hFind⟩) hStay

/-- What a repair does to a document with a range: only the digits of its end year change, they are
found afterwards where they were, and repairs do not add up. -/
structure Resets (n : Notice) (tag : Nat) (r : YearRange) (a : Int) (fs fs' : FileSystem)
    (old new : Bytes) : Prop where
  fixed   : (n.fix tag a).run fs = (.ok ⟨r.year, a⟩, fs')
  read    : fs.read n.path = .ok old
  saved   : fs'.read n.path = .ok new
  bytes   : r.Splices a old new
  found   : ∃ r', n.endYear.run fs' = (.ok r', fs') ∧ (r'.year : Int) = a ∧
    r'.start = r.start ∧ r'.stop = r.stop
  passes  : (n.lint a).run fs' = (.ok (), fs')
  again   : ∀ b, isFourDigitYear b = true → ∃ last once twice,
    (n.fix tag b).run fs = (.ok ⟨r.year, b⟩, once) ∧ once.read n.path = .ok last ∧
    (n.fix tag b).run fs' = (.ok ⟨a, b⟩, twice) ∧ twice.read n.path = .ok last
  stable  : ((n.fix tag a).run fs').2.read n.path = .ok new
  changed : (FixedYear.changed ⟨r.year, a⟩ = true ↔ new ≠ old) ∧
    (new ≠ old ↔ ((n.lint a).run fs).1 ≠ .ok ())

/-- **A repair sets the end year of the document and nothing else.** Whatever the first year of the
range is, the new digits make no other range: the year is found where the old one was, and a later
repair leaves what it would have left on the old document. -/
theorem fix_resets (hSaves : n.Saves tag fs) (hRange : (n.endYear.run fs).1 = .ok r)
    (ha : isFourDigitYear a = true) :
    ∃ old new, n.Resets tag r a fs ((n.fix tag a).run fs).2 old new := by
  obtain ⟨cs, hRead, hFind⟩ := endYear_eq_ok_iff.mp hRange
  obtain ⟨rfl, hDigits⟩ := text_of_find? hFind
  obtain ⟨hYear, hValue⟩ := yearText_spec ha
  obtain ⟨fs', hFix, hSaved, hSaves'⟩ := hSaves.fix hRange ha
  have hRange' := endYear_after_fix hRange ha hSaved
  -- around the range that is found afterwards stands the same text
  have hAgain : ∀ b, isFourDigitYear b = true → ∃ twice,
      (n.fix tag b).run fs' = (.ok ⟨a, b⟩, twice) ∧
        twice.read n.path = .ok (encode (r.setEnd b)) := by
    intro b hb
    obtain ⟨twice, hTwice, hLast, -⟩ := hSaves'.fix (congrArg Prod.fst hRange') hb
    have hPrevious : (YearRange.year ⟨r.before, yearText a, r.after⟩ : Int) = a := hValue
    rw [hPrevious] at hTwice
    exact ⟨twice, hTwice, hLast⟩
  have hChanged : encode (r.setEnd a) ≠ encode r.text ↔ (r.year : Int) ≠ a := by
    rw [ne_eq, ne_eq, ← setEnd_eq_text_iff hDigits ha,
      ← Function.Injective.eq_iff @encode_injective]
  have hPasses : ((n.lint a).run fs).1 = .ok () ↔ (r.year : Int) = a := by
    rw [← lint_eq_ok_iff_of_endYear hRange, Prod.ext_iff, lint_snd]
    simp
  rw [hFix]
  refine ⟨encode r.text, encode (r.setEnd a), hFix, hRead, hSaved, splices_setEnd hDigits ha,
    ⟨_, hRange', hValue, rfl, ?_⟩, ?_, ?_, ?_, ?_, ?_⟩
  · rw [stop, stop, start, start, length_encode_of_isYear hYear, length_encode_of_isYear hDigits]
  · exact (lint_eq_ok_iff_of_endYear (congrArg Prod.fst hRange')).mpr hValue
  · intro b hb
    obtain ⟨once, hOnce, hLast, -⟩ := hSaves.fix hRange hb
    obtain ⟨twice, hTwice, hLast'⟩ := hAgain b hb
    exact ⟨_, once, twice, hOnce, hLast, hTwice, hLast'⟩
  · obtain ⟨twice, hTwice, hLast⟩ := hAgain a ha
    rw [hTwice]
    exact hLast
  · rw [hChanged, FixedYear.changed, bne_iff_ne]
  · rw [hChanged, ne_eq, ne_eq, hPasses]

/-- A document in which one range goes on in another one. -/
def chainedTree : FileSystem :=
  ⟨[(["NOTICE"], .file (encode "2018-2018-2023\n".toList) 0o644)], []⟩

def chainedNotice : Notice := ⟨⟨"NOTICE"⟩, 2018⟩

/-- The end year of the one range is the first year of the other one. -/
def chainedRange : YearRange := ⟨"2018-".toList, "2018".toList, "-2023\n".toList⟩

/-- The other range is not touched when its first year is set to another one. -/
theorem fix_resets_chained_range :
    chainedNotice.Saves 0 chainedTree ∧
      (chainedNotice.endYear.run chainedTree).1 = .ok chainedRange ∧
      ∃ old, chainedNotice.Resets 0 chainedRange 2023 chainedTree
        ((chainedNotice.fix 0 2023).run chainedTree).2 old (encode "2018-2023-2023\n".toList) := by
  have hVacant : chainedTree.linkStatus (chainedNotice.path.temporarySibling 0) =
      .error .noEntry := by decide
  have hRead : chainedTree.read chainedNotice.path = .ok (encode "2018-2018-2023\n".toList) := by
    decide
  have hWritten : ((Program.replace 0 chainedNotice.path []).run chainedTree).1 = .ok () := by
    decide +kernel
  have hSaves : chainedNotice.Saves 0 chainedTree := by
    refine saves_of_write (.of_entries (by decide) (by decide)) hRead (fun st => ?_)
      hWritten
    rw [hVacant]
    exact fun hOk => by cases hOk
  have hRange : (chainedNotice.endYear.run chainedTree).1 = .ok chainedRange := by decide
  obtain ⟨old, new, hResets⟩ := fix_resets (a := 2023) hSaves hRange (by decide)
  have hNew : ((chainedNotice.fix 0 2023).run chainedTree).2.read chainedNotice.path =
      .ok (encode "2018-2023-2023\n".toList) := by decide +kernel
  obtain rfl := Except.ok.inj (hResets.saved.symm.trans hNew)
  exact ⟨hSaves, hRange, old, hResets⟩

end Notice

end LicenseAudit
