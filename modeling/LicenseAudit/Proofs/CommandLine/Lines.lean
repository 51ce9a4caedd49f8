import LicenseAudit.Proofs.CommandLine.Account

/-!
# Findings and complaints

Two kinds of lines are printed however much is printed: the findings of a check on standard output,
and on standard error what failed. Colours show in the latter as codes of styles, and verbose output
puts other lines between them.

* `Styled` — a text with codes of styles in it;
* `Line.isFinding` — the line tells of a file without header;
* `Complains` — what lines on standard error complain of;
* `Account.noticeComplaints`, `Account.treeComplaints` — what there is to complain of in an account.

## Results

* `complains_noticeLines`, `complains_treeLines` — the lines about an account say its complaints.
* `findings_treeLines` — the findings of a check are the files that it found.
-/

namespace LicenseAudit

-- ---------------------------------------------------------------------------
-- Codes of styles
-- ---------------------------------------------------------------------------

/-- The second text is the first one with codes of styles in it. -/
inductive Styled : List Char → List Char → Prop
  | nil : Styled [] []
  | letter (c : Char) {plain text : List Char} (h : Styled plain text) :
    Styled (c :: plain) (c :: text)
  | code (n : Nat) {plain text : List Char} (h : Styled plain text) :
    Styled plain ((styleCode n).toList ++ text)

theorem Styled.refl (text : List Char) : Styled text text := by
  induction text with
  | nil => exact .nil
  | cons c rest ih => exact .letter c ih

theorem Styled.append {plain text plain' text' : List Char} (h : Styled plain text)
    (h' : Styled plain' text') : Styled (plain ++ plain') (text ++ text') := by
  induction h with
  | nil => exact h'
  | letter c _ ih => exact .letter c ih
  | code n _ ih =>
    rw [List.append_assoc]
    exact .code n ih

theorem TextStyle.styled_apply (s : TextStyle) (used : Bool) (text : String) :
    Styled text.toList (s.apply used text).toList := by
  cases used with
  | false => exact .refl _
  | true =>
    have hClose : Styled [] (styleCode s.close).toList := by
      simpa using Styled.code s.close .nil
    have hText := (Styled.refl text.toList).append hClose
    rw [List.append_nil] at hText
    simpa [apply, String.toList_append] using Styled.code s.start hText

-- ---------------------------------------------------------------------------
-- Findings
-- ---------------------------------------------------------------------------

/-- How a line ends that tells of a file without header. -/
def findingEnd : String := " => missing Apache license header"

/-- The line tells of a file without header. -/
def Line.isFinding : Line → Bool
  | .out text => findingEnd.toList.isSuffixOf text.toList
  | .err _ => false

/-- A line that ends with another letter tells of no file. -/
theorem Line.not_isFinding (text : String) {last : String}
    (h : ∃ c, last.toList.getLast? = some c ∧ c ≠ 'r') :
    (Line.out (text ++ last)).isFinding = false := by
  obtain ⟨c, hLast, hOther⟩ := h
  obtain ⟨first, hText⟩ := List.getLast?_eq_some_iff.mp hLast
  rw [Bool.eq_false_iff, isFinding, Ne, List.isSuffixOf_iff_suffix]
  rintro ⟨path, hEnd⟩
  have hFinding : path ++ findingEnd.toList =
      (path ++ " => missing Apache license heade".toList) ++ ['r'] := by
    rw [List.append_assoc]
    rfl
  rw [String.toList_append, hText, hFinding, ← List.append_assoc] at hEnd
  exact hOther (List.singleton_inj.mp (List.append_inj' hEnd rfl).2).symm

/-- In a style, too, a line that ends with another letter tells of no file. -/
theorem Line.not_isFinding_apply (style : TextStyle) (used : Bool) {text : String}
    (h : ∃ c, text.toList.getLast? = some c ∧ c ≠ 'r') :
    (Line.out (style.apply used text)).isFinding = false := by
  cases used with
  | false =>
    have hText := not_isFinding "" h
    rwa [String.empty_append] at hText
  | true =>
    rw [TextStyle.apply, if_pos rfl, styleCode, styleCode, ← String.append_assoc]
    exact not_isFinding _ ⟨'m', rfl, by decide⟩

namespace Presentation

variable (p : Presentation)

theorem findings_missingFiles (root : Path) (files : List Path) :
    (missingFiles root files).filter Line.isFinding = missingFiles root files := by
  rw [List.filter_eq_self]
  intro line hMem
  obtain ⟨file, -, rfl⟩ := List.mem_map.mp hMem
  rw [Line.isFinding, List.isSuffixOf_iff_suffix, String.toList_append]
  exact List.suffix_append _ _

theorem findings_remark {text : String} (h : (Line.out text).isFinding = false) :
    (p.remark text).filter Line.isFinding = [] := by
  rw [remark]
  split_ifs
  · rfl
  · simp [h]

theorem findings_detail (text : String) : (p.detail text).filter Line.isFinding = [] := by
  rw [detail]
  split_ifs <;> rfl

theorem findings_failures (root : Path) (errors : List FileError) :
    (p.failures root errors).filter Line.isFinding = [] := by
  rw [List.filter_eq_nil_iff]
  intro line hMem
  obtain ⟨e, -, rfl⟩ := List.mem_map.mp hMem
  exact Bool.false_ne_true

theorem findings_cost (command : String) (time : Nat) :
    (p.cost command time).filter Line.isFinding = [] := by
  refine p.findings_remark ?_
  rw [duration, apply_ite (command ++ " cost: " ++ ·), ← String.append_assoc, ← String.append_assoc]
  split_ifs
  · exact Line.not_isFinding _ ⟨'s', rfl, by decide⟩
  · exact Line.not_isFinding _ ⟨'s', rfl, by decide⟩

end Presentation

namespace Session

variable (s : Session) (notice : Except NoticeError Unit) (tree : Except AuditError CheckOutcome)

theorem findings_noticeLines :
    (s.noticeLines (.checked notice tree)).filter Line.isFinding = [] := by
  cases notice with
  | ok done => exact s.presentation.findings_detail _
  | error e => rfl

/-- The findings of a check are the files that it found. -/
theorem findings_treeLines : (s.treeLines (.checked notice tree)).filter Line.isFinding =
    Presentation.missingFiles s.root (Account.checked notice tree).missing := by
  cases tree with
  | error e => rfl
  | ok c =>
    show (s.checkLines c).filter Line.isFinding = _
    rw [checkLines, List.filter_append, Presentation.findings_missingFiles,
      Presentation.findings_failures, List.append_nil]
    rfl

theorem findings_lastLines (success : Bool) :
    (s.lastLines (.checked notice tree) success).filter Line.isFinding = [] := by
  show (s.verdictLines success).filter Line.isFinding = []
  cases success with
  | true =>
    exact s.presentation.findings_remark (Line.not_isFinding _ ⟨'.', rfl, by decide⟩)
  | false =>
    exact s.presentation.findings_remark (Line.not_isFinding_apply _ _ ⟨'.', rfl, by decide⟩)

end Session

-- ---------------------------------------------------------------------------
-- Complaints
-- ---------------------------------------------------------------------------

/-- A line that only verbose output has. -/
inductive IsDetail : String → Prop
  | current (year : Int) : IsDetail ("Notice year is current: " ++ toString year)
  | compliant (file : String) : IsDetail (file ++ " already has a license header")

/-- On standard error the lines say these complaints in this order, with codes of styles in them.
Only verbose output says more. -/
inductive Complains (volume : Volume) : List String → List Line → Prop
  | nil : Complains volume [] []
  | out (text : String) {complaints : List String} {lines : List Line}
    (h : Complains volume complaints lines) : Complains volume complaints (.out text :: lines)
  | complaint {plain text : String} (hText : Styled plain.toList text.toList)
    {complaints : List String} {lines : List Line} (h : Complains volume complaints lines) :
    Complains volume (plain :: complaints) (.err text :: lines)
  | detail (hVolume : volume = .verbose) {text : String} (hText : IsDetail text)
    {complaints : List String} {lines : List Line} (h : Complains volume complaints lines) :
    Complains volume complaints (.err text :: lines)

namespace Complains

variable {volume : Volume} {complaints complaints' : List String} {lines lines' : List Line}

theorem append (h : Complains volume complaints lines) (h' : Complains volume complaints' lines') :
    Complains volume (complaints ++ complaints') (lines ++ lines') := by
  induction h with
  | nil => exact h'
  | out text _ ih => exact .out text ih
  | complaint hText _ ih => exact .complaint hText ih
  | detail hVolume hText _ ih => exact .detail hVolume hText ih

/-- Lines on standard output complain of nothing. -/
theorem of_out (h : ∀ line ∈ lines, ∃ text, line = .out text) : Complains volume [] lines := by
  induction lines with
  | nil => exact .nil
  | cons line rest ih =>
    obtain ⟨⟨text, rfl⟩, hRest⟩ := List.forall_mem_cons.mp h
    exact .out text (ih hRest)

end Complains

namespace Presentation

variable (p : Presentation) {volume : Volume}

theorem exists_out_of_mem_remark {text : String} {line : Line} (h : line ∈ p.remark text) :
    ∃ text, line = .out text := by
  rw [remark] at h
  split_ifs at h
  · cases h
  · exact ⟨text, List.mem_singleton.mp h⟩

theorem complains_remark (text : String) : Complains volume [] (p.remark text) :=
  .of_out fun _ hMem => p.exists_out_of_mem_remark hMem

theorem complains_detail {text : String} (h : IsDetail text) :
    Complains p.volume [] (p.detail text) := by
  rw [detail]
  split_ifs with hVerbose
  · exact .detail hVerbose h .nil
  · exact .nil

theorem complains_noticeFixed (root notice : Path) (fixed : FixedYear) :
    Complains volume [] (p.noticeFixed root notice fixed) := by
  rw [noticeFixed]
  split_ifs <;> exact p.complains_remark _

theorem complains_addedFiles (root : Path) (files : List Path) :
    Complains volume [] (p.addedFiles root files) := by
  rw [addedFiles]
  split_ifs
  · exact .nil
  · refine ((p.complains_remark _).append (.of_out fun line hMem => ?_)).append ?_
    · obtain ⟨file, -, hLine⟩ := List.mem_flatMap.mp hMem
      exact p.exists_out_of_mem_remark hLine
    · split_ifs
      · exact p.complains_remark _
      · exact .nil

/-- What is said about something that failed, less its style. -/
def complaintText (text : String) : String := failureMark ++ " " ++ text

theorem complains_complaint (text : String) {complaints : List String} {lines : List Line}
    (h : Complains volume complaints lines) :
    Complains volume (complaintText text :: complaints) (p.complaint text :: lines) := by
  refine .complaint ?_ h
  simp only [complaintText, String.toList_append]
  exact ((TextStyle.red.styled_apply p.colorErr failureMark).append (.refl _)).append (.refl _)

theorem complains_failures (root : Path) (errors : List FileError) :
    Complains volume
      (errors.map fun e => complaintText (e.path.shownFrom root ++ " => " ++ e.message))
      (p.failures root errors) := by
  induction errors with
  | nil => exact .nil
  | cons e rest ih => exact p.complains_complaint _ ih

end Presentation

namespace Account

/-- What is said about the notice document if the operation on it failed. -/
def noticeComplaints (acc : Account) : List String :=
  acc.noticeError?.toList.map fun e => Presentation.complaintText e.message

/-- What is said about the files that failed. -/
def treeComplaints (acc : Account) (root : Path) : List String :=
  acc.failures.map fun f =>
    Presentation.complaintText (f.2.path.shownFrom root ++ " => " ++ f.2.message)

variable {acc : Account} {e : AuditError}

/-- Nothing was found where the tree could not be traversed. -/
theorem missing_of_failure? (h : acc.failure? = some e) : acc.missing = [] := by
  cases acc with
  | checked notice tree =>
    cases tree with
    | error e' => rfl
    | ok c => cases h
  | repaired | renewed | treated => rfl

/-- No file failed where the tree could not be traversed. -/
theorem failures_of_failure? (h : acc.failure? = some e) : acc.failures = [] := by
  cases acc with
  | checked notice tree =>
    cases tree with
    | error e' => rfl
    | ok c => cases h
  | repaired notice tree =>
    cases tree with
    | error e' => rfl
    | ok o => cases h
  | renewed | treated => cases h

end Account

namespace Session

variable (s : Session) (acc : Account)

theorem complains_noticeLines :
    Complains s.presentation.volume acc.noticeComplaints (s.noticeLines acc) := by
  have hError : ∀ e : NoticeError, Complains s.presentation.volume
      [Presentation.complaintText e.message] (s.presentation.noticeError e) :=
    fun e => s.presentation.complains_complaint _ .nil
  cases acc with
  | checked notice tree =>
    cases notice with
    | ok done => exact s.presentation.complains_detail (.current s.year)
    | error e => exact hError e
  | repaired notice tree =>
    cases notice with
    | ok fixed => exact s.presentation.complains_noticeFixed _ _ fixed
    | error e => exact hError e
  | renewed notice =>
    cases notice with
    | ok fixed => exact s.presentation.complains_noticeFixed _ _ fixed
    | error e => exact hError e
  | treated file outcome => exact .nil

theorem complains_treeLines :
    Complains s.presentation.volume (acc.treeComplaints s.root) (s.treeLines acc) := by
  have hFailures : ∀ errors : List FileError, Complains s.presentation.volume
      ((errors.map fun e => (e.path, e)).map fun f =>
        Presentation.complaintText (f.2.path.shownFrom s.root ++ " => " ++ f.2.message))
      (s.presentation.failures s.root errors) := by
    intro errors
    rw [List.map_map]
    exact s.presentation.complains_failures s.root errors
  cases acc with
  | checked notice tree =>
    cases tree with
    | error e => exact .nil
    | ok c =>
      have hMissing : ∀ line ∈ Presentation.missingFiles s.root c.missing,
          ∃ text, line = .out text := by
        intro line hMem
        obtain ⟨file, -, rfl⟩ := List.mem_map.mp hMem
        exact ⟨_, rfl⟩
      exact (Complains.of_out hMissing).append (hFailures c.failures)
  | repaired notice tree =>
    cases tree with
    | error e => exact .nil
    | ok o => exact (s.presentation.complains_addedFiles _ _).append (hFailures o.failures)
  | renewed notice => cases notice <;> exact .nil
  | treated file outcome =>
    rcases outcome with e | done
    · exact s.presentation.complains_failures s.root [e]
    · cases done with
      | added => exact s.presentation.complains_addedFiles _ _
      | alreadyCompliant => exact s.presentation.complains_detail (.compliant _)
      | unsupported => exact s.presentation.complains_remark _

theorem complains_lastLines {volume : Volume} (success : Bool) :
    Complains volume [] (s.lastLines acc success) := by
  cases acc with
  | checked notice tree => cases success <;> exact s.presentation.complains_remark _
  | repaired | renewed | treated => exact .nil

end Session

end LicenseAudit
