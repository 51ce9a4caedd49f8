import LicenseAudit.Header.Style
import LicenseAudit.Proofs.Path.Parts
import LicenseAudit.Proofs.Text.Line
import LicenseAudit.Proofs.Text.Trim
import Mathlib.Data.List.Forall2

/-!
# License texts in a comment

A comment has one line for each line of its license text, between the outer markers. No line is
joined with another one or cut in two, and what stands behind the middle marker is the line as it
was. So a reader who knows the style gets the lines of the text back.

* `CommentStyle.OneLined` — the markers of a style stand within a line, and the middle one can be
  seen;
* `CommentStyle.Holds` — a line of a comment holds a line of a text;
* `CommentStyle.Frames` — the lines of a comment are those of a text between the outer markers;
* `CommentStyle.readBack` — the lines of the text that a comment holds.

## Results

* `frames_commentLines` — the lines of a comment are those of its text between the outer markers.
* `Frames.bare_eq` — without the markers they are the lines of the text.
* `render_lossless` — a comment is cut at its line feeds into these lines, from which the text is
  read back.
-/

namespace LicenseAudit

open Text

-- ---------------------------------------------------------------------------
-- Lines
-- ---------------------------------------------------------------------------

namespace Text

/-- No line of a text holds a line feed. -/
theorem feed_not_mem_of_mem_lines {cs line : List Char} (hMem : line ∈ lines cs) :
    '\n' ∉ line := by
  obtain ⟨piece, hPiece, hPrefix⟩ := exists_piece_of_line hMem
  exact fun hFeed => not_mem_of_mem_pieces hPiece (hPrefix.subset hFeed)

/-- Lines that are not empty are joined to a text that ends as the last of them does. -/
theorem exists_last_joinLines {ls : List (List Char)} (hSome : ls ≠ [])
    (hFilled : ∀ l ∈ ls, l ≠ []) :
    ∃ l ∈ ls, ∃ c ∈ l, (joinLines ls).getLast? = some c := by
  obtain ⟨front, last, rfl⟩ := (List.eq_nil_or_concat' ls).resolve_left hSome
  have hMem : last ∈ front ++ [last] := List.mem_append_right _ (List.mem_singleton_self last)
  have hLast := hFilled last hMem
  refine ⟨last, hMem, last.getLast hLast, List.getLast_mem hLast, ?_⟩
  rw [← List.getLast?_eq_some_getLast hLast]
  unfold joinLines
  by_cases hFront : front = []
  · rw [hFront, List.nil_append, List.intercalate_singleton]
  · rw [intercalate_concat hFront, List.getLast?_append_of_ne_nil _ (List.cons_ne_nil _ _),
      List.getLast?_cons_of_ne_nil hLast]

end Text

namespace CommentStyle

-- ---------------------------------------------------------------------------
-- Styles
-- ---------------------------------------------------------------------------

/-- No marker of the style holds a line feed, and the middle marker is not white space only. -/
structure OneLined (style : CommentStyle) : Prop where
  top     : '\n' ∉ style.top.toList
  middle  : '\n' ∉ style.middle.toList
  bottom  : '\n' ∉ style.bottom.toList
  visible : ∃ c ∈ style.middle.toList, isBlank c = false

variable {style : CommentStyle} {line l : List Char} {ls block : List (List Char)}

/-- The second line is one of a comment and holds the first one: behind the middle marker, of which
an empty line leaves no white space at the end. -/
inductive Holds (style : CommentStyle) : List Char → List Char → Prop where
  | empty : Holds style [] (trimEnd style.middle.toList)
  | filled {line : List Char} (hFilled : line ≠ []) :
      Holds style line (style.middle.toList ++ line)

/-- The second lines are those of a comment for the first ones: the top marker if there is one, a
line for each line in its order, and the bottom marker if there is one. -/
def Frames (style : CommentStyle) (ls block : List (List Char)) : Prop :=
  ∃ body, List.Forall₂ style.Holds ls body ∧
    block = (if style.top = "" then [] else [style.top.toList]) ++ body ++
      if style.bottom = "" then [] else [style.bottom.toList]

theorem holds_commentLine (style : CommentStyle) (line : List Char) :
    style.Holds line (style.commentLine line) := by
  unfold commentLine
  split
  · rename_i hEmpty
    rw [List.isEmpty_iff.mp hEmpty]
    exact .empty
  · rename_i hFilled
    exact .filled (mt List.isEmpty_iff.mpr hFilled)

theorem outerLine_eq (marker : String) :
    outerLine marker = if marker = "" then [] else [marker.toList] := by
  simp only [outerLine, String.isEmpty_iff]

/-- The lines of a comment are those of its text between the outer markers. -/
theorem frames_commentLines (style : CommentStyle) (text : List Char) :
    style.Frames (lines text) (style.commentLines text) := by
  refine ⟨(lines text).map style.commentLine, ?_, ?_⟩
  · rw [List.forall₂_map_right_iff, List.forall₂_same]
    exact fun line _ => style.holds_commentLine line
  · rw [commentLines, outerLine_eq, outerLine_eq]

theorem Holds.feed_not_mem (h : style.Holds line l) (hOne : style.OneLined)
    (hLine : '\n' ∉ line) : '\n' ∉ l := by
  cases h with
  | empty =>
    obtain ⟨tail, hSplit, -⟩ := trimEnd_append_blank style.middle.toList
    intro hFeed
    refine hOne.middle ?_
    rw [hSplit]
    exact List.mem_append_left tail hFeed
  | filled =>
    rw [List.mem_append]
    exact not_or.mpr ⟨hOne.middle, hLine⟩

/-- What can be seen of the middle marker stands in every line. -/
theorem Holds.ne_nil (h : style.Holds line l) (hOne : style.OneLined) : l ≠ [] := by
  obtain ⟨c, hMem, hVisible⟩ := hOne.visible
  cases h with
  | empty =>
    intro hNil
    have hBlank := trimEnd_eq_nil_iff.mp hNil c hMem
    rw [hVisible] at hBlank
    cases hBlank
  | filled => exact List.append_ne_nil_of_left_ne_nil (List.ne_nil_of_mem hMem) _

/-- Behind as many characters as the middle marker has stands the line, also where white space of
the marker is left out. -/
theorem Holds.drop_eq (h : style.Holds line l) : l.drop style.middle.toList.length = line := by
  cases h with
  | empty =>
    obtain ⟨tail, hSplit, -⟩ := trimEnd_append_blank style.middle.toList
    refine List.drop_eq_nil_of_le ?_
    conv_rhs => rw [hSplit]
    rw [List.length_append]
    exact Nat.le_add_right _ _
  | filled => exact List.drop_left

/-- Every line between the outer markers holds a line of the text. -/
theorem exists_of_mem_body {body : List (List Char)} (h : List.Forall₂ style.Holds ls body)
    (hMem : l ∈ body) : ∃ line ∈ ls, style.Holds line l := by
  induction h with
  | nil => exact absurd hMem List.not_mem_nil
  | cons hFirst _ ih =>
    rcases List.mem_cons.mp hMem with rfl | hLater
    · exact ⟨_, List.mem_cons_self, hFirst⟩
    · obtain ⟨line, hLine, hHeld⟩ := ih hLater
      exact ⟨line, List.mem_cons_of_mem _ hLine, hHeld⟩

/-- What holds of the markers that are there, and of every line that holds one of the text, holds of
all lines of a comment. -/
theorem Frames.forall_mem {P : List Char → Prop} (h : style.Frames ls block)
    (hTop : style.top ≠ "" → P style.top.toList)
    (hBottom : style.bottom ≠ "" → P style.bottom.toList)
    (hBody : ∀ line ∈ ls, ∀ l, style.Holds line l → P l) : ∀ l ∈ block, P l := by
  obtain ⟨body, hHolds, rfl⟩ := h
  have hOuter : ∀ {marker : String}, (marker ≠ "" → P marker.toList) →
      ∀ l ∈ (if marker = "" then [] else [marker.toList]), P l := by
    intro marker hMarker l hMem
    split at hMem
    · exact absurd hMem List.not_mem_nil
    · rename_i hFilled
      rw [List.mem_singleton.mp hMem]
      exact hMarker hFilled
  intro l hMem
  rw [List.mem_append, List.mem_append] at hMem
  rcases hMem with (hFirst | hInner) | hLast
  · exact hOuter hTop l hFirst
  · obtain ⟨line, hLine, hHeld⟩ := exists_of_mem_body hHolds hInner
    exact hBody line hLine l hHeld
  · exact hOuter hBottom l hLast

theorem Frames.feed_not_mem (h : style.Frames ls block) (hOne : style.OneLined)
    (hLines : ∀ line ∈ ls, '\n' ∉ line) : ∀ l ∈ block, '\n' ∉ l :=
  h.forall_mem (fun _ => hOne.top) (fun _ => hOne.bottom)
    fun line hMem _ hHeld => hHeld.feed_not_mem hOne (hLines line hMem)

theorem Frames.ne_nil (h : style.Frames ls block) (hOne : style.OneLined) :
    ∀ l ∈ block, l ≠ [] :=
  h.forall_mem (fun hTop => mt String.toList_eq_nil_iff.mp hTop)
    (fun hBottom => mt String.toList_eq_nil_iff.mp hBottom)
    fun _ _ _ hHeld => hHeld.ne_nil hOne

-- ---------------------------------------------------------------------------
-- Reading back
-- ---------------------------------------------------------------------------

/-- The lines of a comment without its markers. -/
def bare (style : CommentStyle) (block : List (List Char)) : List (List Char) :=
  let behindTop := if style.top = "" then block else block.tail
  let body := if style.bottom = "" then behindTop else behindTop.dropLast
  body.map (·.drop style.middle.toList.length)

/-- The lines of the text that a comment holds. An empty comment has no line. -/
def readBack (style : CommentStyle) (comment : List Char) : List (List Char) :=
  style.bare (if comment = [] then [] else pieces '\n' comment)

/-- Without the markers the lines of a comment are the lines of the text. -/
theorem Frames.bare_eq (h : style.Frames ls block) : style.bare block = ls := by
  obtain ⟨body, hHolds, rfl⟩ := h
  have hBody : body.map (·.drop style.middle.toList.length) = ls := by
    induction hHolds with
    | nil => rfl
    | cons hFirst _ ih => rw [List.map_cons, hFirst.drop_eq, ih]
  unfold bare
  by_cases hTop : style.top = "" <;> by_cases hBottom : style.bottom = "" <;>
    simp only [hTop, hBottom, if_true, if_false, List.nil_append, List.append_nil,
      List.cons_append, List.tail_cons, List.dropLast_concat, hBody]

/-- A comment is cut at its line feeds into its lines. It is empty exactly if it has none. -/
theorem Frames.pieces_joinLines (h : style.Frames ls block) (hOne : style.OneLined)
    (hLines : ∀ line ∈ ls, '\n' ∉ line) :
    (if joinLines block = [] then [] else pieces '\n' (joinLines block)) = block := by
  by_cases hNone : block = []
  · rw [hNone]
    rfl
  · obtain ⟨l, -, c, -, hLast⟩ := exists_last_joinLines hNone (h.ne_nil hOne)
    have hSome : joinLines block ≠ [] := by
      intro hNil
      rw [hNil] at hLast
      cases hLast
    rw [if_neg hSome]
    exact pieces_intercalate hNone (h.feed_not_mem hOne hLines)

-- ---------------------------------------------------------------------------
-- Nothing is lost
-- ---------------------------------------------------------------------------

/-- The comment has one line for each line of the text, which can be read back, and no line break
behind the last one. -/
structure Lossless (style : CommentStyle) (text : String) : Prop where
  lines  : ∃ block, style.Frames (Text.lines text.toList) block ∧
    (block ≠ [] → pieces '\n' (style.render text).toList = block) ∧
    (block = [] → style.render text = "")
  read   : style.readBack (style.render text).toList = Text.lines text.toList
  apart  : ∀ other : String, Text.lines other.toList ≠ Text.lines text.toList →
    style.render other ≠ style.render text
  unended : (style.render text).toList.getLast? ≠ some '\n'

theorem readBack_render (h : style.OneLined) (text : String) :
    style.readBack (style.render text).toList = lines text.toList := by
  have hFrames := style.frames_commentLines text.toList
  have hPieces := hFrames.pieces_joinLines h fun _ => feed_not_mem_of_mem_lines
  rw [render, String.toList_ofList, readBack, hPieces, hFrames.bare_eq]

/-- **A comment loses nothing of its text and adds no line break.** In a style whose markers stand
within a line and whose middle marker can be seen, a comment is cut at its line feeds into the top
marker, a line for each line of the text, and the bottom marker. The lines of the text are read back
from it, so that texts with different lines have different comments. It does not end with a line
feed. -/
theorem render_lossless (h : style.OneLined) (text : String) : style.Lossless text := by
  have hFrames := style.frames_commentLines text.toList
  have hFree := hFrames.feed_not_mem h fun _ => feed_not_mem_of_mem_lines
  have hJoined : (style.render text).toList = joinLines (style.commentLines text.toList) :=
    String.toList_ofList
  refine ⟨⟨_, hFrames, fun hSome => ?_, fun hNone => ?_⟩, readBack_render h text,
    fun other hOther hSame => hOther ?_, ?_⟩
  · rw [hJoined]
    exact pieces_intercalate hSome hFree
  · rw [← String.toList_eq_nil_iff, hJoined, hNone]
    rfl
  · rw [← readBack_render h other, hSame, readBack_render h text]
  · rw [hJoined]
    by_cases hNone : style.commentLines text.toList = []
    · rw [hNone]
      exact fun hFeed => by cases hFeed
    · obtain ⟨l, hMem, c, hChar, hLast⟩ := exists_last_joinLines hNone (hFrames.ne_nil h)
      rw [hLast]
      intro hFeed
      obtain rfl := Option.some.inj hFeed
      exact hFree l hMem hChar

/-- A text with an empty line, a line of white space and a carriage return before a line feed, in a
style whose middle marker ends in white space. -/
theorem render_lossless_blank_lines :
    slashStar.OneLined ∧ slashStar.Lossless "a\r\n\n \nb\n" ∧
      slashStar.render "a\r\n\n \nb\n" = "/*\n * a\n *\n *  \n * b\n */" := by
  have hOne : slashStar.OneLined := ⟨by decide, by decide, by decide, '*', by decide, by decide⟩
  exact ⟨hOne, render_lossless hOne _, by decide⟩

end CommentStyle

end LicenseAudit
