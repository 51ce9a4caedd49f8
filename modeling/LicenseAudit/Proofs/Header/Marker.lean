import LicenseAudit.Header.Insert
import LicenseAudit.Header.Registry
import LicenseAudit.Proofs.Text.Line
import LicenseAudit.Proofs.Text.Utf8

/-!
# The marker in a header

A header is the license text, line by line behind a comment marker. A license marker that stands
within a line of the text therefore stands in every header, and one that does not is missing from
some: a comment style whose middle marker is a long run of a letter that the license marker
neither begins nor ends with keeps the lines apart.

* `Registry.Carries` — every header of a registry holds the marker.
* `CommentStyle.Keeps` — a marker of the text stands in the comment, behind the middle marker of a
  line, and in every file that receives the comment.

## Results

* `containsText_render` — what stands in a line of the text stands in every header.
* `carries_insertHeader` — a file that receives a header holds what stands in the header.
* `standsInLine_of_barrier` — what stands in the header of a style that keeps the lines apart
  stands in a line of the text.
* `CommentStyle.render_keeps` — every style keeps the markers without line breaks.
-/

namespace LicenseAudit

open Text

-- ---------------------------------------------------------------------------
-- Lines of a header
-- ---------------------------------------------------------------------------

/-- Every line of the text ends its line of the comment. -/
theorem CommentStyle.suffix_commentLine (style : CommentStyle) (l : List Char) :
    l <:+ style.commentLine l := by
  unfold commentLine
  split
  · rename_i hEmpty
    rw [List.isEmpty_iff.mp hEmpty]
    exact List.nil_suffix
  · exact List.suffix_append _ _

namespace Text

/-- Lines that are put behind something keep their ends. -/
theorem exists_terminated_map {f : List Char → List Char} (hBehind : ∀ l, l <:+ f l)
    {ls : List (List Char)} {t : List Char} (hMem : t ∈ terminated ls) :
    ∃ t' ∈ terminated (ls.map f), t <:+ t' := by
  induction ls with
  | nil => cases hMem
  | cons l more ih =>
    cases more with
    | nil =>
      rw [List.mem_singleton.mp hMem]
      exact ⟨f l, List.mem_singleton_self (f l), hBehind l⟩
    | cons next others =>
      rcases List.mem_cons.mp hMem with rfl | hLater
      · refine ⟨f l ++ ['\n'], List.mem_cons_self .., ?_⟩
        exact List.suffix_append_self_iff.mpr (hBehind l)
      · obtain ⟨t', ht, hSuffix⟩ := ih hLater
        exact ⟨t', List.mem_cons_of_mem _ ht, hSuffix⟩

/-- Lines that come later leave a line as it is, or put a line feed behind it. -/
theorem exists_terminated_append {ls : List (List Char)} {t : List Char}
    (hMem : t ∈ terminated ls) (more : List (List Char)) :
    ∃ t' ∈ terminated (ls ++ more), t <+: t' := by
  induction ls with
  | nil => cases hMem
  | cons l rest ih =>
    cases rest with
    | nil =>
      rw [List.mem_singleton.mp hMem]
      exact exists_terminated (List.mem_append_left _ (List.mem_singleton_self l))
    | cons next others =>
      rcases List.mem_cons.mp hMem with rfl | hLater
      · exact ⟨l ++ ['\n'], List.mem_cons_self .., List.prefix_rfl⟩
      · obtain ⟨t', ht, hPrefix⟩ := ih hLater
        exact ⟨t', List.mem_cons_of_mem _ ht, hPrefix⟩

/-- Lines that come before leave a line as it is. -/
theorem terminated_append_right {ls : List (List Char)} {t : List Char}
    (hMem : t ∈ terminated ls) (before : List (List Char)) :
    t ∈ terminated (before ++ ls) := by
  induction before with
  | nil => exact hMem
  | cons l rest ih =>
    have hSome : rest ++ ls ≠ [] := by
      intro hNil
      rw [hNil] at ih
      cases ih
    obtain ⟨next, others, hSplit⟩ := List.exists_cons_of_ne_nil hSome
    rw [List.cons_append, hSplit, terminated]
    · rw [← hSplit]
      exact List.mem_cons_of_mem _ ih
    · exact List.cons_ne_nil next others

/-- A terminated line is a part of the joined lines. -/
theorem infix_joinLines {ls : List (List Char)} {t : List Char} (hMem : t ∈ terminated ls) :
    t <:+: joinLines ls := by
  rw [← flatten_terminated]
  exact List.infix_of_mem_flatten hMem

/-- A line is a part of the joined lines. -/
theorem infix_joinLines_of_mem {ls : List (List Char)} {l : List Char} (hMem : l ∈ ls) :
    l <:+: joinLines ls := by
  obtain ⟨t, ht, hPrefix⟩ := exists_terminated hMem
  exact hPrefix.isInfix.trans (infix_joinLines ht)

/-- A line of a text is a part of it. -/
theorem infix_of_mem_lines {text l : List Char} (hMem : l ∈ lines text) : l <:+: text := by
  obtain ⟨piece, hPiece, hPrefix⟩ := exists_piece_of_line hMem
  have hText : piece <:+: joinLines (pieces '\n' text) := infix_joinLines_of_mem hPiece
  rw [joinLines, intercalate_pieces] at hText
  exact hPrefix.isInfix.trans hText

end Text

-- ---------------------------------------------------------------------------
-- Headers with the marker
-- ---------------------------------------------------------------------------

/-- What stands in a line of the text stands in every header. -/
theorem containsText_render {marker text : String} (style : CommentStyle)
    (h : StandsInLine marker.toList text.toList) :
    containsText (style.render text) marker = true := by
  obtain ⟨t, ht, hm⟩ := h
  obtain ⟨t₁, ht₁, hLine⟩ := exists_terminated_map style.suffix_commentLine ht
  obtain ⟨t₂, ht₂, hBottom⟩ := exists_terminated_append ht₁ (CommentStyle.outerLine style.bottom)
  have ht₃ := terminated_append_right ht₂ (CommentStyle.outerLine style.top)
  rw [← List.append_assoc] at ht₃
  rw [containsText, occursIn_iff, CommentStyle.render, String.toList_ofList]
  exact hm.trans (hLine.isInfix.trans (hBottom.isInfix.trans (infix_joinLines ht₃)))

/-- A file that receives a header holds what stands in the header. -/
theorem carries_insertHeader {header marker : String} (h : containsText header marker = true)
    (content : Bytes) :
    carries (insertHeader content (encode header.toList)) marker = true := by
  rw [containsText, occursIn_iff] at h
  rw [carries, occursIn_iff]
  refine (infix_encode h).trans ?_
  unfold insertHeader
  split
  · rename_i declaration rest hSplit
    exact ⟨declaration ++ gap, gap ++ dropLineBreak rest, by simp⟩
  · exact ⟨[], gap ++ content, by simp⟩

/-- Every file that takes a header takes one that holds the marker. -/
def Registry.Carries (r : Registry) (marker : String) : Prop :=
  ∀ p, r.supports p = true → ∃ h, r.headerFor? p = some h ∧ containsText h marker = true

/-- The audit, which sees a registry through its source, gets such headers. -/
theorem Registry.Carries.exists_header {r : Registry} {marker : String}
    (h : r.Carries marker) {p : Path} (hSupports : r.source.supports p = true) :
    ∃ header, r.source.headerFor? p = some header ∧ containsText header marker = true := by
  simp only [source] at hSupports ⊢
  exact h p hSupports

/-- The header of a file that takes one is the license text in some style. -/
theorem Registry.exists_headerFor? {r : Registry} {p : Path} (hSupports : r.supports p = true) :
    ∃ style : CommentStyle, r.headerFor? p = some (style.render r.licenseText) := by
  rw [supports, Bool.and_eq_true, Bool.not_eq_true'] at hSupports
  obtain ⟨style, hStyle⟩ := Option.isSome_iff_exists.mp hSupports.2
  refine ⟨style, ?_⟩
  rw [headerFor?, hSupports.1, hStyle]
  rfl

/-- A marker that stands in a line of the license text is carried, whatever the styles are. -/
theorem Registry.carries_of_standsInLine {r : Registry} {marker : String}
    (h : StandsInLine marker.toList r.licenseText.toList) : r.Carries marker := by
  intro p hSupports
  obtain ⟨style, hHeader⟩ := exists_headerFor? hSupports
  exact ⟨_, hHeader, containsText_render style h⟩

-- ---------------------------------------------------------------------------
-- A style that keeps the lines apart
-- ---------------------------------------------------------------------------

/-- The line comments whose middle marker is one letter, as often as the license marker is long. -/
def CommentStyle.barrier (marker : String) (d : Char) : CommentStyle :=
  .line (String.ofList (List.replicate marker.toList.length d))

/-- Some visible letter neither begins nor ends the marker. -/
theorem exists_letter (m : List Char) :
    ∃ d, isBlank d = false ∧ m.head? ≠ some d ∧ m.getLast? ≠ some d := by
  by_cases hx : m.head? = some 'x' ∨ m.getLast? = some 'x'
  · by_cases hy : m.head? = some 'y' ∨ m.getLast? = some 'y'
    · -- two letters are taken, so the third is free
      refine ⟨'z', by decide, ?_, ?_⟩ <;> intro hz <;> rw [hz] at hx hy <;> simp_all
    · push Not at hy
      exact ⟨'y', by decide, hy⟩
  · push Not at hx
    exact ⟨'x', by decide, hx⟩

/-- A common beginning of all lines is one of all terminated lines. -/
theorem terminated_map_append (front : List Char) (ls : List (List Char)) :
    terminated (ls.map (front ++ ·)) = (terminated ls).map (front ++ ·) := by
  induction ls with
  | nil => rfl
  | cons l more ih =>
    cases more with
    | nil => rfl
    | cons next others =>
      simp only [List.map_cons, terminated] at ih ⊢
      rw [ih, List.append_assoc]

/-- What stands in the joined lines stands in one of them, if the lines are kept apart. -/
theorem infix_of_infix_barrier {m : List Char} {d : Char} {ts : List (List Char)}
    (hSome : m ≠ []) (hHead : m.head? ≠ some d) (hLast : m.getLast? ≠ some d)
    (h : m <:+: (ts.map (List.replicate m.length d ++ ·)).flatten) : ∃ t ∈ ts, m <:+: t := by
  induction ts with
  | nil => exact absurd (List.eq_nil_of_infix_nil h) hSome
  | cons t more ih =>
    -- cut off the run in front of the first line
    rw [List.map_cons, List.flatten_cons, List.append_assoc] at h
    rw [← List.nil_append (_ ++ _)] at h
    have hFirst : m <:+: t ++ (more.map (List.replicate m.length d ++ ·)).flatten :=
      (infix_or_infix_of_barrier hHead hLast hSome h).resolve_left
        fun hNil => hSome (List.eq_nil_of_infix_nil hNil)
    cases more with
    | nil => exact ⟨t, List.mem_singleton_self t, by simpa using hFirst⟩
    | cons next others =>
      rw [List.map_cons, List.flatten_cons, List.append_assoc] at hFirst
      rcases infix_or_infix_of_barrier hHead hLast hSome hFirst with hHere | hLater
      · exact ⟨t, List.mem_cons_self .., hHere⟩
      · obtain ⟨l, hMem, hl⟩ := ih (by
          rw [List.map_cons, List.flatten_cons, List.append_assoc]
          exact List.infix_append_of_infix_right hLater)
        exact ⟨l, List.mem_cons_of_mem _ hMem, hl⟩

/-- What stands in the header of a style that keeps the lines apart stands in a line. -/
theorem standsInLine_of_barrier {marker text : String} {d : Char} (hSome : marker ≠ "")
    (hVisible : isBlank d = false) (hHead : marker.toList.head? ≠ some d)
    (hLast : marker.toList.getLast? ≠ some d)
    (h : containsText ((CommentStyle.barrier marker d).render text) marker = true) :
    StandsInLine marker.toList text.toList := by
  have hChars : marker.toList ≠ [] := fun hNil => hSome (String.toList_eq_nil_iff.mp hNil)
  have hTrim : trimEnd (List.replicate marker.toList.length d) =
      List.replicate marker.toList.length d := by
    rw [trimEnd, List.reverse_replicate, List.dropWhile_replicate, if_neg (by simp [hVisible]),
      List.reverse_replicate]
  have hLines : (CommentStyle.barrier marker d).commentLines text.toList =
      (lines text.toList).map (List.replicate marker.toList.length d ++ ·) := by
    have hComment : (CommentStyle.barrier marker d).commentLine =
        (List.replicate marker.toList.length d ++ ·) := by
      funext l
      unfold CommentStyle.commentLine
      split
      · rename_i hEmpty
        rw [List.isEmpty_iff.mp hEmpty, List.append_nil]
        simpa [CommentStyle.barrier, CommentStyle.line] using hTrim
      · simp [CommentStyle.barrier, CommentStyle.line]
    rw [CommentStyle.commentLines, hComment]
    simp [CommentStyle.barrier, CommentStyle.line, CommentStyle.outerLine]
  rw [containsText, occursIn_iff, CommentStyle.render, String.toList_ofList, hLines,
    ← flatten_terminated, terminated_map_append] at h
  exact infix_of_infix_barrier hChars hHead hLast h

-- ---------------------------------------------------------------------------
-- Markers without line breaks
-- ---------------------------------------------------------------------------

namespace CommentStyle

variable {style : CommentStyle} {l text : List Char}

/-- A line that is not empty stands in the comment as it is, behind the middle marker. -/
theorem middle_append_infix_joinLines (hMem : l ∈ lines text) (hFilled : l ≠ []) :
    style.middle.toList ++ l <:+: joinLines (style.commentLines text) := by
  have hLine : style.commentLine l = style.middle.toList ++ l := by
    rw [commentLine, if_neg (mt List.isEmpty_iff.mp hFilled)]
  rw [← hLine]
  refine infix_joinLines_of_mem ?_
  rw [commentLines, List.append_assoc]
  exact List.mem_append_right _ (List.mem_append_left _ (List.mem_map_of_mem hMem))

/-- Without any markers a comment has the lines of its text. -/
theorem commentLines_line_nil : (line "").commentLines text = lines text := by
  have hSame : (line "").commentLine = id := by
    funext l
    cases l <;> rfl
  rw [commentLines, hSame, List.map_id]
  exact List.append_nil _

/-- The marker stands in a line of the text, which the comment holds behind its middle marker. So
the comment holds it, and so does every file that receives the comment. -/
structure Keeps (style : CommentStyle) (marker text : String) : Prop where
  line    : ∃ l ∈ lines text.toList, marker.toList <:+: l ∧
    style.middle.toList ++ l <:+: (style.render text).toList
  comment : containsText (style.render text) marker = true
  file    : ∀ content,
    carries (insertHeader content (encode (style.render text).toList)) marker = true

/-- What stands in a line is kept. The line is not empty, so that no white space of the middle
marker is lost before it. -/
theorem keeps_of_mem_lines {marker text : String} {l : List Char} (hSome : marker.toList ≠ [])
    (hLine : l ∈ lines text.toList) (hIn : marker.toList <:+: l) (style : CommentStyle) :
    style.Keeps marker text := by
  have hFilled : l ≠ [] := by
    rintro rfl
    exact hSome (List.eq_nil_of_infix_nil hIn)
  have hHeld : style.middle.toList ++ l <:+: (style.render text).toList := by
    rw [render, String.toList_ofList]
    exact middle_append_infix_joinLines hLine hFilled
  have hComment : containsText (style.render text) marker = true := by
    rw [containsText, occursIn_iff]
    exact hIn.trans ((List.suffix_append _ l).isInfix.trans hHeld)
  exact ⟨⟨l, hLine, hIn, hHeld⟩, hComment, carries_insertHeader hComment⟩

/-- What holds no line feed and stands in the comment without markers stands in the text. -/
theorem infix_of_containsText_line_nil {marker text : String} (hSome : marker.toList ≠ [])
    (hFeed : '\n' ∉ marker.toList) (h : containsText ((line "").render text) marker = true) :
    marker.toList <:+: text.toList := by
  rw [containsText, occursIn_iff, render, String.toList_ofList, commentLines_line_nil] at h
  obtain ⟨l, hLine, hIn⟩ := infix_of_infix_intercalate hSome hFeed h
  exact hIn.trans (infix_of_mem_lines hLine)

/-- **Markers without line breaks are kept.** A marker that is not empty and holds no line feed and
no carriage return is kept by all styles if it stands in the text, wherever it stands there; and if
it stands in the comments of all styles, it comes from the text. -/
theorem render_keeps {marker text : String} (hSome : marker ≠ "") (hFeed : '\n' ∉ marker.toList)
    (hReturn : '\r' ∉ marker.toList) :
    (containsText text marker = true → ∀ style : CommentStyle, style.Keeps marker text) ∧
    ((∀ style : CommentStyle, containsText (style.render text) marker = true) →
      containsText text marker = true) := by
  have hChars : marker.toList ≠ [] := fun hNil => hSome (String.toList_eq_nil_iff.mp hNil)
  rw [containsText, occursIn_iff]
  constructor
  · intro hIn style
    obtain ⟨l, hLine, hl⟩ := exists_line_of_infix hChars hFeed
      (fun hLast => hReturn (List.mem_of_getLast? hLast)) hIn
    exact keeps_of_mem_lines hChars hLine hl style
  · exact fun hAll => infix_of_containsText_line_nil hChars hFeed (hAll (line ""))

/-- White space around the marker is kept, at the end of a line as well, where the carriage return
behind it is lost. -/
theorem render_keeps_outer_blanks :
    containsText "a\r\n\t x \r\n\r\nb" "\t x " = true ∧
      markup.Keeps "\t x " "a\r\n\t x \r\n\r\nb" ∧
      markup.render "a\r\n\t x \r\n\r\nb" = "<!--\n * a\n * \t x \n *\n * b\n-->" := by
  have hIn : containsText "a\r\n\t x \r\n\r\nb" "\t x " = true := by decide
  exact ⟨hIn, (render_keeps (by decide) (by decide) (by decide)).1 hIn markup, by decide⟩

end CommentStyle

end LicenseAudit
