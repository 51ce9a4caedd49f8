import LicenseAudit.Notice.Document
import LicenseAudit.Proofs.Notice.Range
import LicenseAudit.Proofs.Program.Install
import LicenseAudit.Proofs.Program.Passage
import LicenseAudit.Proofs.Text.Utf8

/-!
# Repaired notice documents

A repair of the notice document puts the year into the first range of its text. The document that is
read at the same path afterwards is in order, whatever stood there before, a link included.

* `Notice.Current` — the document ends with a year.

## Results

* `readText_eq_ok_iff` — what can be read as a text is the UTF-8 form of it.
* `Notice.lint_eq_ok_iff` — the check of a document passes exactly where it ends with the year.
* `Notice.fix_cases` — a repair puts the year into the range, or changes nothing.
* `Notice.exists_installed_of_fix` — a repair that succeeds leaves a document that ends with the
  year, and touches nothing else.
-/

namespace LicenseAudit

open Text

namespace Program

/-- Reading a text depends on the bytes of the file only. -/
theorem run_readText (p : Path) (fs : FileSystem) :
    (readText p).run fs = ((fs.read p).bind fun bytes =>
      match decode? bytes with
      | some text => .ok (String.ofList text)
      | none => .error .notText, fs) := by
  have hRun := run_failing_readText p (fun _ => none) fs
  rwa [failing_none] at hRun

theorem readText_eq_ok_iff {p : Path} {fs : FileSystem} {text : String} :
    ((readText p).run fs).1 = .ok text ↔ fs.read p = .ok (encode text.toList) := by
  rw [run_readText]
  cases fs.read p with
  | error cause => simp [Except.bind]
  | ok bytes =>
    simp only [Except.bind, Except.ok.injEq]
    rw [← decode?_eq_some_iff]
    cases decode? bytes with
    | none => simp
    | some cs =>
      constructor
      · intro hText
        rw [← Except.ok.inj hText, String.toList_ofList]
      · intro hText
        obtain rfl := Option.some.inj hText
        exact congrArg Except.ok String.ofList_toList

/-- What goes on with a text, and fails where there is none, succeeds on the text of a file. -/
theorem run_readText_bind_eq_ok_iff {ε α : Type} {p : Path} {fs : FileSystem} {a : α}
    {next : Except IoError String → Program (Except ε α)}
    (hFails : ∀ cause, ∃ e, next (.error cause) = pure (.error e)) :
    ((readText p >>= next).run fs).1 = .ok a ↔
      ∃ text, fs.read p = .ok (encode text.toList) ∧ ((next (.ok text)).run fs).1 = .ok a := by
  have hStay : ((readText p).run fs).2 = fs := by rw [run_readText]
  rw [run_bind, hStay]
  cases hText : ((readText p).run fs).1 with
  | error cause =>
    obtain ⟨e, hNext⟩ := hFails cause
    rw [hNext]
    refine iff_of_false (fun h => by cases h) ?_
    rintro ⟨text, hRead, -⟩
    rw [readText_eq_ok_iff.mpr hRead] at hText
    cases hText
  | ok text =>
    have hRead := readText_eq_ok_iff.mp hText
    constructor
    · exact fun h => ⟨text, hRead, h⟩
    · rintro ⟨text', hRead', h⟩
      rw [readText_eq_ok_iff.mpr hRead'] at hText
      obtain rfl := Except.ok.inj hText
      exact h

end Program

namespace Notice

open YearRange

variable {n : Notice} {fs : FileSystem} {year : Int} {tag : Nat}

/-- The document can be read, and its first range ends with the given year. -/
def Current (n : Notice) (fs : FileSystem) (year : Int) : Prop :=
  ∃ cs, fs.read n.path = .ok (encode cs) ∧
    (lastYear? n.startYear cs).map Int.ofNat = some year

/-- What the search for the range of a document gives. -/
theorem run_endYear (n : Notice) (fs : FileSystem) :
    n.endYear.run fs = (match ((Program.readText n.path).run fs).1 with
      | .ok text => n.rangeOf text
      | .error cause => .error (.read n.path cause), fs) := by
  have hStay : ((Program.readText n.path).run fs).2 = fs := by rw [Program.run_readText]
  rw [endYear, Program.run_bind, readText, Program.run_bind, hStay]
  cases ((Program.readText n.path).run fs).1 <;> rfl

theorem rangeOf_eq_ok_iff {text : String} {r : YearRange} :
    n.rangeOf text = .ok r ↔ find? n.startYear text.toList = some r := by
  rw [rangeOf]
  cases find? n.startYear text.toList <;> simp

/-- The range that the document holds. -/
theorem endYear_eq_ok_iff {r : YearRange} :
    (n.endYear.run fs).1 = .ok r ↔
      ∃ cs, fs.read n.path = .ok (encode cs) ∧ find? n.startYear cs = some r := by
  rw [run_endYear]
  cases hText : ((Program.readText n.path).run fs).1 with
  | error cause =>
    refine iff_of_false (fun h => by cases h) ?_
    rintro ⟨cs, hRead, -⟩
    have hSome : ((Program.readText n.path).run fs).1 = .ok (String.ofList cs) := by
      rw [Program.readText_eq_ok_iff, String.toList_ofList, hRead]
    rw [hText] at hSome
    cases hSome
  | ok text =>
    have hRead := Program.readText_eq_ok_iff.mp hText
    show n.rangeOf text = .ok r ↔ _
    rw [rangeOf_eq_ok_iff]
    constructor
    · exact fun hFind => ⟨text.toList, hRead, hFind⟩
    · rintro ⟨cs, hRead', hFind⟩
      rwa [encode_injective (Except.ok.inj (hRead.symm.trans hRead'))]

/-- The check of a document changes nothing. -/
theorem lint_snd : ((n.lint year).run fs).2 = fs := by
  have hStay : (n.endYear.run fs).2 = fs := by rw [run_endYear]
  rw [lint, Program.run_bind, hStay]
  cases (n.endYear.run fs).1 with
  | error cause => rfl
  | ok r =>
    simp only
    split <;> rfl

/-- Once the range is found, the check comes down to its end year. -/
theorem lint_eq_ok_iff_of_endYear {r : YearRange} (hRange : (n.endYear.run fs).1 = .ok r) :
    (n.lint year).run fs = (.ok (), fs) ↔ (r.year : Int) = year := by
  have hStay : (n.endYear.run fs).2 = fs := by rw [run_endYear]
  rw [lint, Program.run_bind, hStay, hRange]
  by_cases hYear : (r.year : Int) = year
  · simp [hYear]
  · simp [hYear]

/-- The check of a document passes exactly where the document ends with the year. -/
theorem lint_eq_ok_iff : (n.lint year).run fs = (.ok (), fs) ↔ n.Current fs year := by
  cases hRange : (n.endYear.run fs).1 with
  | error cause =>
    have hStay : (n.endYear.run fs).2 = fs := by rw [run_endYear]
    rw [lint, Program.run_bind, hStay, hRange]
    refine iff_of_false (fun h => by cases h) ?_
    rintro ⟨cs, hRead, hYear⟩
    rw [lastYear?, Option.map_map, Option.map_eq_some_iff] at hYear
    obtain ⟨r, hFind, -⟩ := hYear
    rw [endYear_eq_ok_iff.mpr ⟨cs, hRead, hFind⟩] at hRange
    cases hRange
  | ok r =>
    obtain ⟨cs, hRead, hFind⟩ := endYear_eq_ok_iff.mp hRange
    rw [lint_eq_ok_iff_of_endYear hRange]
    constructor
    · intro hYear
      refine ⟨cs, hRead, ?_⟩
      rw [lastYear?, hFind]
      exact congrArg some hYear
    · rintro ⟨cs', hRead', hYear⟩
      obtain rfl := encode_injective (Except.ok.inj (hRead.symm.trans hRead'))
      rw [lastYear?, hFind] at hYear
      exact Option.some.inj hYear

/-- Once the range is found, a repair comes down to the replacement of the document. -/
theorem run_fix_of_endYear {r : YearRange} (hYear : isFourDigitYear year = true)
    (hRange : (n.endYear.run fs).1 = .ok r) :
    (n.fix tag year).run fs =
      (match ((Program.replace tag n.path (encode (r.setEnd year))).run fs).1 with
        | .ok () => .ok ⟨r.year, year⟩
        | .error cause => .error (.write n.path cause),
       ((Program.replace tag n.path (encode (r.setEnd year))).run fs).2) := by
  have hStay : (n.endYear.run fs).2 = fs := by rw [run_endYear]
  rw [fix, hYear]
  simp only [Bool.not_true, Bool.false_eq_true, if_false, Program.run_bind, hStay, hRange]
  cases ((Program.replace tag n.path (encode (r.setEnd year))).run fs).1 <;> rfl

/-- **How a repair ends.** Either the year is put into the range of the document, and the document
is installed at its path, or everything is as it was. -/
theorem fix_cases (hTree : fs.WellFormed)
    (hVacant : ∀ old, fs.read n.path = .ok old →
      ∀ st, fs.linkStatus (n.path.temporarySibling tag) ≠ .ok st) (year : Int) :
    (∃ cs r fs', fs.read n.path = .ok (encode cs) ∧ find? n.startYear cs = some r ∧
      isFourDigitYear year = true ∧ (n.fix tag year).run fs = (.ok ⟨r.year, year⟩, fs') ∧
      fs.Installed n.path (encode (r.setEnd year)) fs') ∨
    ∃ e, (n.fix tag year).run fs = (.error e, fs) := by
  cases hYear : isFourDigitYear year with
  | false =>
    refine Or.inr ⟨.invalidYear year, ?_⟩
    rw [fix, hYear]
    rfl
  | true =>
    cases hRange : (n.endYear.run fs).1 with
    | error cause =>
      have hStay : (n.endYear.run fs).2 = fs := by rw [run_endYear]
      refine Or.inr ⟨cause, ?_⟩
      rw [fix, hYear]
      simp only [Bool.not_true, Bool.false_eq_true, if_false, Program.run_bind, hStay, hRange]
      rfl
    | ok r =>
      obtain ⟨cs, hRead, hFind⟩ := endYear_eq_ok_iff.mp hRange
      rw [run_fix_of_endYear hYear hRange]
      obtain ⟨fs', hRun, hInstalled⟩ | ⟨cause, hRun⟩ :=
        Program.replace_cases hTree hRead (hVacant _ hRead) (encode (r.setEnd year))
      · exact Or.inl ⟨cs, r, fs', hRead, hFind, rfl, by rw [hRun], hInstalled⟩
      · exact Or.inr ⟨.write n.path cause, by rw [hRun]⟩

/-- **A repaired document is in order.** A repair that succeeds leaves a document that ends with the
year, and touches nothing but what its path leads to. -/
theorem exists_installed_of_fix {fixed : FixedYear} (hTree : fs.WellFormed)
    (hVacant : ∀ name dir, fs.lookup? (temporaryName name tag :: dir) = none)
    (hDone : ((n.fix tag year).run fs).1 = .ok fixed) :
    ∃ content, fs.Installed n.path content ((n.fix tag year).run fs).2 ∧
      n.Current ((n.fix tag year).run fs).2 year := by
  have hBeside : ∀ old, fs.read n.path = .ok old →
      ∀ st, fs.linkStatus (n.path.temporarySibling tag) ≠ .ok st :=
    fun _ hRead => Program.vacant_beside hTree hRead hVacant
  obtain ⟨cs, r, fs', -, hFind, hYear, hRun, hInstalled⟩ | ⟨e, hRun⟩ :=
    fix_cases hTree hBeside year
  · rw [hRun]
    exact ⟨_, hInstalled, r.setEnd year, hInstalled.read, lastYear?_setEnd hYear hFind⟩
  · rw [hRun] at hDone
    cases hDone

end Notice

end LicenseAudit
