import LicenseAudit.Path.Relative
import LicenseAudit.Proofs.Path.Below

/-!
# Paths written from components

The components of a path can be written out again, behind another path or on their own. Written
behind a directory they are its components followed by the new ones, whatever the spelling of the
directory.

* `Component.Step` — a component that can stand anywhere in a path: a name or `..`;
* `Path.along` — the path written by some components behind another one.

## Results

* `components_cases` — every component but the first is a step.
* `components_along`, `components_ofComponents` — what is written is read again.
* `join_ofComponents` — to write steps behind a path is to join the path that they write alone.
* `text_along`, `text_ofComponents` — steps are written with separators between them.
-/

namespace LicenseAudit

/-- A component that can stand anywhere in a path: a proper name or `..`. -/
inductive Component.Step : Component → Prop where
  | up : Step .up
  | name {n : String} (hProper : ProperName n) : Step (.name n)

namespace Component

theorem Step.ne_here {c : Component} (h : c.Step) : c ≠ .here := by
  rintro rfl
  cases h

theorem Step.ne_root {c : Component} (h : c.Step) : c ≠ .root := by
  rintro rfl
  cases h

/-- The text of a step holds no separator and is read as the step, wherever it stands. -/
theorem Step.read {c : Component} (h : c.Step) :
    '/' ∉ c.text.toList ∧ c.text.toList ≠ [] ∧
      ∀ first, ofPiece? first c.text.toList = some c := by
  cases h with
  | up => exact ⟨by decide, by decide, fun first => rfl⟩
  | name hProper => exact ⟨hProper.noSlash, hProper.notEmpty, Path.ofPiece?_of_proper hProper⟩

/-- A piece that is neither empty nor a single dot is read as a step. -/
theorem step_of_piece {first : Bool} {piece : List Char} {c : Component} (hFree : '/' ∉ piece)
    (hFilled : piece ≠ []) (hOther : piece ≠ ['.']) (h : ofPiece? first piece = some c) :
    c.Step := by
  rw [ofPiece?, if_neg hFilled, if_neg hOther] at h
  split_ifs at h with hUp
  · rw [← Option.some.inj h]
    exact .up
  · rw [← Option.some.inj h]
    refine .name ⟨?_, ?_, fun hText => hOther ?_, fun hText => hUp ?_⟩
    · rwa [String.toList_ofList]
    · rwa [String.toList_ofList]
    · simpa using congrArg String.toList hText
    · simpa using congrArg String.toList hText

/-- A piece behind the first one is read as a step, if it is read as anything. -/
theorem step_of_later {piece : List Char} {c : Component} (hFree : '/' ∉ piece)
    (h : ofPiece? false piece = some c) : c.Step := by
  refine step_of_piece hFree ?_ ?_ h
  · rintro rfl
    cases h
  · rintro rfl
    cases h

end Component

namespace Path

variable {root p : Path} {c : Component} {cs : List Component}

-- ---------------------------------------------------------------------------
-- The components of a path
-- ---------------------------------------------------------------------------

/-- The first piece is read by a rule of its own, and the others are read alike. -/
theorem components_of_pieces (first : List Char) (rest : List (List Char)) :
    (spansOf (first :: rest)).map (·.1) =
      (Component.ofPiece? true first).toList ++ rest.filterMap (Component.ofPiece? false) := by
  induction rest using List.reverseRecOn with
  | nil =>
    have hSpans := spansOf_concat [] first
    rw [List.nil_append] at hSpans
    rw [hSpans]
    cases hPiece : Component.ofPiece? true first <;> simp [spansOf, hPiece]
  | append_singleton rest last ih =>
    rw [← List.cons_append, spansOf_concat, List.map_append, ih, List.filterMap_append,
      List.append_assoc]
    congr 2
    have hLater : ((first :: rest).length == 0) = false := rfl
    rw [hLater]
    cases hPiece : Component.ofPiece? false last <;> simp [hPiece]

/-- The first piece is empty exactly if the path starts at the root. -/
theorem isAbsolute_iff_of_pieces {first : List Char} {rest : List (List Char)}
    (hText : p.text.toList ≠ []) (hPieces : p.textPieces = first :: rest) :
    p.isAbsolute = true ↔ first = [] := by
  obtain ⟨d, more, hText⟩ := List.exists_cons_of_ne_nil hText
  rw [textPieces, hText, Text.pieces] at hPieces
  rw [isAbsolute, hText, List.head?_cons, beq_iff_eq, Option.some_inj]
  by_cases hSlash : d = '/'
  · rw [if_pos hSlash] at hPieces
    exact iff_of_true hSlash (List.cons.inj hPieces).1.symm
  · rw [if_neg hSlash] at hPieces
    refine iff_of_false hSlash ?_
    rintro rfl
    split at hPieces <;> cases (List.cons.inj hPieces).1

/-- **The components of a path.** The empty path has none. Any other path begins with the root, if
it is absolute, or else with `.` or a step; all components behind the first one are steps. -/
theorem components_cases (p : Path) :
    (p.text.toList = [] ∧ p.components = []) ∨
      ∃ c rest, p.components = c :: rest ∧ (∀ d ∈ rest, d.Step) ∧
        (c = .root ∧ p.isAbsolute = true ∨ (c = .here ∨ c.Step) ∧ p.isAbsolute = false) := by
  by_cases hText : p.text.toList = []
  · refine Or.inl ⟨hText, ?_⟩
    rw [components, spans, pieces, if_pos (isEmpty_text_iff.mpr hText)]
    rfl
  · right
    obtain ⟨first, rest, hPieces⟩ :=
      List.exists_cons_of_ne_nil (Text.pieces_ne_nil '/' p.text.toList)
    have hFree : ∀ piece ∈ first :: rest, '/' ∉ piece := by
      rw [← hPieces]
      exact fun piece hMem => Text.not_mem_of_mem_pieces hMem
    have hAbsolute := isAbsolute_iff_of_pieces hText hPieces
    have hComponents : p.components =
        (Component.ofPiece? true first).toList ++ rest.filterMap (Component.ofPiece? false) := by
      have hFilled : p.text.isEmpty = false := isEmpty_text_eq_false_iff.mpr hText
      rw [← components_of_pieces, ← hPieces]
      show (spansOf p.pieces).map _ = _
      rw [pieces, hFilled]
      rfl
    have hLater : ∀ d ∈ rest.filterMap (Component.ofPiece? false), d.Step := by
      intro d hMem
      obtain ⟨piece, hPiece, hRead⟩ := List.mem_filterMap.mp hMem
      exact Component.step_of_later (hFree piece (List.mem_cons_of_mem _ hPiece)) hRead
    by_cases hRoot : first = []
    · rw [hRoot] at hComponents
      exact ⟨.root, _, hComponents, hLater, Or.inl ⟨rfl, hAbsolute.mpr hRoot⟩⟩
    · have hRelative : p.isAbsolute = false := by
        rw [Bool.eq_false_iff, Ne, hAbsolute]
        exact hRoot
      by_cases hHere : first = ['.']
      · rw [hHere] at hComponents
        exact ⟨.here, _, hComponents, hLater, Or.inr ⟨Or.inl rfl, hRelative⟩⟩
      · obtain ⟨c, hRead⟩ : ∃ c, Component.ofPiece? true first = some c := by
          rw [Component.ofPiece?, if_neg hRoot, if_neg hHere]
          split_ifs <;> exact ⟨_, rfl⟩
        have hStep := Component.step_of_piece (hFree first (List.mem_cons_self ..)) hRoot hHere hRead
        rw [hRead] at hComponents
        exact ⟨c, _, hComponents, hLater, Or.inr ⟨Or.inr hStep, hRelative⟩⟩

/-- The first component is the root exactly if the path starts there. -/
theorem head?_components_eq_root_iff :
    p.components.head? = some .root ↔ p.isAbsolute = true := by
  rcases components_cases p with ⟨hText, hNil⟩ | ⟨c, rest, hComponents, -, hFirst⟩
  · simp [hNil, isAbsolute, hText]
  · rw [hComponents, List.head?_cons, Option.some_inj]
    rcases hFirst with ⟨rfl, hAbsolute⟩ | ⟨hOther, hRelative⟩
    · exact iff_of_true rfl hAbsolute
    · refine iff_of_false ?_ (by simp [hRelative])
      rintro rfl
      rcases hOther with hHere | hStep
      · cases hHere
      · exact hStep.ne_root rfl

-- ---------------------------------------------------------------------------
-- Steps behind a path
-- ---------------------------------------------------------------------------

/-- The path written by components behind another path. -/
def along (root : Path) (cs : List Component) : Path :=
  cs.foldl (fun p c => p.join ⟨c.text⟩) root

theorem ofComponents_eq (cs : List Component) : ofComponents cs = along ⟨""⟩ cs := rfl

@[simp]
theorem along_nil (root : Path) : root.along [] = root := rfl

@[simp]
theorem along_cons (root : Path) (c : Component) (cs : List Component) :
    root.along (c :: cs) = (root.join ⟨c.text⟩).along cs := rfl

theorem along_names (root : Path) (names : List String) :
    root.along (names.map .name) = root.below names := by
  rw [along, List.foldl_map]
  rfl

/-- A text without separators, joined to a path, is read as one piece behind the components. -/
theorem components_join_free {t : String} (dir : Path) (hFree : '/' ∉ t.toList)
    (hText : (dir.join ⟨t⟩).text.toList ≠ []) :
    (dir.join ⟨t⟩).components =
      dir.components ++ (Component.ofPiece? (dir.basePieces.length == 0) t.toList).toList := by
  have hFilled : (dir.join ⟨t⟩).text.isEmpty = false := isEmpty_text_eq_false_iff.mpr hText
  show (spansOf (dir.join ⟨t⟩).pieces).map _ = _
  rw [Path.pieces, hFilled, if_neg Bool.false_ne_true, ← textPieces, textPieces_join dir hFree,
    spansOf_concat, List.map_append, components_basePieces]
  cases Component.ofPiece? (dir.basePieces.length == 0) t.toList <;> rfl

/-- A text without separators, joined to a path that has components, leaves the first of them. -/
theorem head?_components_join {t : String} (dir : Path) (hFree : '/' ∉ t.toList)
    (hSome : dir.components ≠ []) :
    (dir.join ⟨t⟩).components.head? = dir.components.head? := by
  have hDir : dir.text.toList ≠ [] := by
    refine fun hNil => hSome ?_
    rw [components, spans, Path.pieces, if_pos (isEmpty_text_iff.mpr hNil)]
    rfl
  have hText : (dir.join ⟨t⟩).text.toList ≠ [] := by
    rw [join, isAbsolute_of_free hFree, isEmpty_text_eq_false_iff.mpr hDir, Bool.or_self,
      if_neg Bool.false_ne_true]
    split <;> simp [hDir]
  rw [components_join_free dir hFree hText, List.head?_append_of_ne_nil _ hSome]

/-- A step joined to a path is added to the components. -/
theorem components_join_step (dir : Path) (hStep : c.Step) :
    (dir.join ⟨c.text⟩).components = dir.components ++ [c] := by
  obtain ⟨hFree, hFilled, hRead⟩ := hStep.read
  have hText : (dir.join ⟨c.text⟩).text.toList ≠ [] := by
    rw [join]
    split_ifs <;> simp [hFilled]
  rw [components_join_free dir hFree hText, hRead]
  rfl

/-- Steps written behind a path are added to its components. -/
theorem components_along (hSteps : ∀ c ∈ cs, c.Step) :
    (root.along cs).components = root.components ++ cs := by
  induction cs generalizing root with
  | nil => simp
  | cons c rest ih =>
    rw [List.forall_mem_cons] at hSteps
    rw [along_cons, ih hSteps.2, components_join_step root hSteps.1]
    simp

/-- Written out, a first component and steps behind it are read again. -/
theorem components_ofComponents (hFirst : c = .root ∨ c = .here ∨ c.Step)
    (hSteps : ∀ d ∈ cs, d.Step) : (ofComponents (c :: cs)).components = c :: cs := by
  have hAlone : (along ⟨""⟩ [c]).components = [c] := by
    rcases hFirst with rfl | rfl | hStep
    · rfl
    · rfl
    · exact components_along (List.forall_mem_singleton.mpr hStep)
  have hWhole : along ⟨""⟩ (c :: cs) = (along ⟨""⟩ [c]).along cs := rfl
  rw [ofComponents_eq, hWhole, components_along hSteps, hAlone]
  rfl

-- ---------------------------------------------------------------------------
-- Texts
-- ---------------------------------------------------------------------------

/-- What stands before anything that is written behind the path: the text of the path, with a
separator behind it if it has none and is not empty. -/
def lead (root : Path) : String :=
  if root.text.isEmpty then ""
  else if root.text.toList.getLast? == some '/' then root.text
  else root.text ++ "/"

/-- A path that starts nowhere in particular is written behind the lead. -/
theorem join_of_relative (root : Path) {q : Path} (hRelative : q.isAbsolute = false) :
    root.join q = ⟨root.lead ++ q.text⟩ := by
  obtain ⟨t⟩ := q
  rw [join, lead, hRelative, Bool.false_or]
  by_cases hEmpty : root.text.isEmpty = true
  · rw [if_pos hEmpty, if_pos hEmpty, String.empty_append]
  · rw [if_neg hEmpty, if_neg hEmpty]
    split <;> rfl

/-- A path that ends in a step needs a separator behind it. -/
theorem lead_of_step (before : String) (hStep : c.Step) :
    lead ⟨before ++ c.text⟩ = before ++ c.text ++ "/" := by
  obtain ⟨hFree, hFilled, -⟩ := hStep.read
  have hSome : (before ++ c.text).isEmpty = false := by
    rw [Bool.eq_false_iff, Ne, String.isEmpty_iff, ← String.toList_eq_nil_iff]
    simp [hFilled]
  have hOpen : (before ++ c.text).toList.getLast? ≠ some '/' := by
    rw [String.toList_append, List.getLast?_append_of_ne_nil _ hFilled]
    exact fun hLast => hFree (List.mem_of_getLast? hLast)
  rw [lead, hSome, if_neg Bool.false_ne_true, if_neg (by simpa using hOpen)]

/-- Steps behind a step are written with separators between them. -/
theorem text_along_of_step (before : String) (hStep : c.Step) (hSteps : ∀ d ∈ cs, d.Step) :
    (along ⟨before ++ c.text⟩ cs).text =
      before ++ "/".intercalate ((c :: cs).map Component.text) := by
  induction cs generalizing before c with
  | nil => simp
  | cons d rest ih =>
    rw [List.forall_mem_cons] at hSteps
    have hNext := isAbsolute_of_free hSteps.1.read.1
    rw [along_cons, join_of_relative _ hNext, lead_of_step before hStep, ih _ hSteps.1 hSteps.2]
    simp [String.intercalate_cons_cons, String.append_assoc]

/-- **Steps are written behind the lead,** with separators between them. -/
theorem text_along (hSteps : ∀ c ∈ cs, c.Step) (hSome : cs ≠ []) :
    (root.along cs).text = root.lead ++ "/".intercalate (cs.map Component.text) := by
  obtain ⟨c, rest, rfl⟩ := List.exists_cons_of_ne_nil hSome
  rw [List.forall_mem_cons] at hSteps
  rw [along_cons, join_of_relative root (isAbsolute_of_free hSteps.1.read.1),
    text_along_of_step root.lead hSteps.1 hSteps.2]

/-- Steps alone are written with separators between them. -/
theorem text_ofComponents (hSteps : ∀ c ∈ cs, c.Step) :
    (ofComponents cs).text = "/".intercalate (cs.map Component.text) := by
  by_cases hSome : cs = []
  · rw [hSome]
    rfl
  · rw [ofComponents_eq, text_along hSteps hSome]
    exact String.empty_append

/-- To write steps behind a path is to join the path that they write alone. -/
theorem join_ofComponents (root : Path) (hSteps : ∀ c ∈ cs, c.Step) (hSome : cs ≠ []) :
    root.join (ofComponents cs) = root.along cs := by
  have hRelative : (ofComponents cs).isAbsolute = false := by
    rw [Bool.eq_false_iff, Ne, ← head?_components_eq_root_iff, ofComponents_eq,
      components_along hSteps]
    intro hRoot
    exact (hSteps _ (List.mem_of_head? hRoot)).ne_root rfl
  rw [join_of_relative root hRelative, text_ofComponents hSteps, ← text_along hSteps hSome]

end Path

end LicenseAudit
