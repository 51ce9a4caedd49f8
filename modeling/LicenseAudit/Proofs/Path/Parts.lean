import LicenseAudit.FileSystem.Resolve
import LicenseAudit.Path.Basic
import Mathlib.Data.List.Basic
import Mathlib.Data.List.Induction
import Mathlib.Tactic.SplitIfs

/-!
# Parts of a path

A path has two readings: the steps by which it is resolved, and the components by which it is
compared and cut. Both come from the pieces of its text between separators, and here they are
tied to each other through these pieces.

* `ProperName` — a name that an entry of a directory can have;
* `Path.Named` — a path whose last piece is such a name, with the pieces before it.

## Results

* `named_join` — the path of an entry of a directory is named, by the entry.
* `Named.withFileName` — the path of a sibling leads through the same directory: at most steps
  to the directory itself are left out.
* `components_join` — an entry of a directory adds its name to the components.
-/

namespace LicenseAudit

/-- A name that an entry of a directory can have. -/
structure ProperName (n : String) : Prop where
  noSlash  : '/' ∉ n.toList
  notEmpty : n.toList ≠ []
  notHere  : n ≠ "."
  notUp    : n ≠ ".."

-- ---------------------------------------------------------------------------
-- Pieces of a text
-- ---------------------------------------------------------------------------

namespace Text

theorem pieces_of_not_mem {sep : Char} {cs : List Char} (hFree : sep ∉ cs) :
    pieces sep cs = [cs] := by
  induction cs with
  | nil => rfl
  | cons c rest ih =>
    have hc : c ≠ sep := fun hEq => hFree (hEq ▸ List.mem_cons_self ..)
    rw [pieces, if_neg hc, ih fun hMem => hFree (List.mem_cons_of_mem _ hMem)]

/-- A separator cuts a text into the pieces on both sides of it. -/
theorem pieces_append_sep (sep : Char) (a b : List Char) :
    pieces sep (a ++ sep :: b) = pieces sep a ++ pieces sep b := by
  induction a with
  | nil => simp [pieces]
  | cons c rest ih =>
    obtain ⟨piece, more, hPieces⟩ := List.exists_cons_of_ne_nil (pieces_ne_nil sep rest)
    rw [List.cons_append, pieces, pieces, ih, hPieces]
    split <;> rfl

theorem not_mem_of_mem_pieces {sep : Char} {cs piece : List Char}
    (hMem : piece ∈ pieces sep cs) : sep ∉ piece := by
  induction cs generalizing piece with
  | nil =>
    rw [List.mem_singleton.mp hMem]
    exact List.not_mem_nil
  | cons c rest ih =>
    rw [pieces] at hMem
    split at hMem
    · rcases List.mem_cons.mp hMem with rfl | hLater
      · exact List.not_mem_nil
      · exact ih hLater
    · rename_i hc
      obtain ⟨first, more, hPieces⟩ := List.exists_cons_of_ne_nil (pieces_ne_nil sep rest)
      rw [hPieces] at hMem ih
      rcases List.mem_cons.mp hMem with rfl | hLater
      · intro hSep
        rcases List.mem_cons.mp hSep with hEq | hIn
        · exact hc hEq.symm
        · exact ih (List.mem_cons_self ..) hIn
      · exact ih (List.mem_cons_of_mem _ hLater)

/-- Joined pieces are cut where they were joined. -/
theorem pieces_intercalate {sep : Char} {ps : List (List Char)} (hSome : ps ≠ [])
    (hFree : ∀ p ∈ ps, sep ∉ p) : pieces sep (List.intercalate [sep] ps) = ps := by
  induction ps with
  | nil => exact absurd rfl hSome
  | cons p more ih =>
    have hFirst := hFree p (List.mem_cons_self ..)
    cases more with
    | nil => rw [List.intercalate_singleton, pieces_of_not_mem hFirst]
    | cons q others =>
      rw [List.intercalate_cons_cons, List.append_assoc, List.singleton_append,
        pieces_append_sep, pieces_of_not_mem hFirst,
        ih (List.cons_ne_nil _ _) fun p hMem => hFree p (List.mem_cons_of_mem _ hMem)]
      rfl

theorem intercalate_concat {sep : Char} {ps : List (List Char)} (hSome : ps ≠ [])
    (last : List Char) :
    List.intercalate [sep] (ps ++ [last]) = List.intercalate [sep] ps ++ sep :: last := by
  induction ps with
  | nil => exact absurd rfl hSome
  | cons p more ih =>
    cases more with
    | nil => simp [List.intercalate_cons_cons]
    | cons q others =>
      have hRest := ih (List.cons_ne_nil _ _)
      simp only [List.cons_append, List.intercalate_cons_cons] at hRest ⊢
      rw [hRest]
      simp

end Text

-- ---------------------------------------------------------------------------
-- Paths that end in a name
-- ---------------------------------------------------------------------------

namespace Path

theorem isEmpty_text_iff {p : Path} : p.text.isEmpty = true ↔ p.text.toList = [] := by
  rw [String.isEmpty_iff, String.toList_eq_nil_iff]

theorem isEmpty_text_eq_false_iff {p : Path} : p.text.isEmpty = false ↔ p.text.toList ≠ [] := by
  rw [Bool.eq_false_iff, Ne, isEmpty_text_iff]

/-- A text without separators is a path that starts nowhere in particular. -/
theorem isAbsolute_of_free {t : String} (hFree : '/' ∉ t.toList) :
    (Path.mk t).isAbsolute = false := by
  rw [isAbsolute, beq_eq_false_iff_ne]
  exact fun hHead => hFree (List.mem_of_head? hHead)

/-- A name is a path that starts nowhere in particular. -/
theorem isAbsolute_of_proper {n : String} (hProper : ProperName n) :
    (Path.mk n).isAbsolute = false :=
  isAbsolute_of_free hProper.noSlash

/-- The pieces of the path between its separators. -/
def textPieces (p : Path) : List (List Char) := Text.pieces '/' p.text.toList

/-- A path has a last piece. -/
theorem exists_last_piece (p : Path) :
    ∃ ps last, p.textPieces = ps ++ [last] ∧
      p.text.toList = List.intercalate ['/'] (ps ++ [last]) := by
  obtain ⟨ps, last, hPieces⟩ :=
    (List.eq_nil_or_concat' p.textPieces).resolve_left (Text.pieces_ne_nil _ _)
  refine ⟨ps, last, hPieces, ?_⟩
  rw [← hPieces, textPieces, Text.intercalate_pieces]

/-- The steps that pieces stand for. -/
def stepsOf (ps : List (List Char)) : List String :=
  (ps.filter (· ≠ [])).map String.ofList

theorem steps_eq (p : Path) : p.steps = stepsOf p.textPieces := rfl

@[simp]
theorem stepsOf_append (ps qs : List (List Char)) :
    stepsOf (ps ++ qs) = stepsOf ps ++ stepsOf qs := by
  simp [stepsOf]

/-- The path ends in a proper name, behind the given pieces. -/
structure Named (p : Path) (ps : List (List Char)) (n : String) : Prop where
  pieces : p.textPieces = ps ++ [n.toList]
  proper : ProperName n

variable {p : Path} {ps : List (List Char)} {n : String}

theorem Named.text_eq (h : p.Named ps n) :
    p.text.toList = List.intercalate ['/'] (ps ++ [n.toList]) := by
  rw [← h.pieces, textPieces, Text.intercalate_pieces]

theorem Named.steps_eq (h : p.Named ps n) : p.steps = stepsOf ps ++ [n] := by
  rw [Path.steps_eq, h.pieces, stepsOf_append]
  simp [stepsOf, h.proper.notEmpty]

theorem Named.exists_base (h : p.Named ps n) : ∃ base, p.text.toList = base ++ n.toList := by
  rw [h.text_eq]
  by_cases hSome : ps = []
  · exact ⟨[], by simp [hSome]⟩
  · rw [Text.intercalate_concat hSome]
    exact ⟨List.intercalate ['/'] ps ++ ['/'], by simp⟩

theorem Named.endsWithSeparator (h : p.Named ps n) : p.endsWithSeparator = false := by
  obtain ⟨base, hText⟩ := h.exists_base
  rw [Path.endsWithSeparator, hText, List.getLast?_append_of_ne_nil _ h.proper.notEmpty,
    beq_eq_false_iff_ne]
  intro hLast
  exact h.proper.noSlash (List.mem_of_getLast? hLast)

/-- A path that ends in a name starts at the root exactly if its first piece is empty. -/
theorem Named.isAbsolute_iff (h : p.Named ps n) :
    p.isAbsolute = true ↔ ps.head? = some [] := by
  rw [isAbsolute, beq_iff_eq, h.text_eq]
  cases ps with
  | nil =>
    simp only [List.nil_append, List.intercalate_singleton, List.head?_nil, reduceCtorEq,
      iff_false]
    exact fun hHead => h.proper.noSlash (List.mem_of_head? hHead)
  | cons q more =>
    have hMem : q ∈ Text.pieces '/' p.text.toList := by
      rw [← textPieces, h.pieces]
      exact List.mem_cons_self ..
    have hFree := Text.not_mem_of_mem_pieces hMem
    rw [List.cons_append, List.intercalate_cons_of_ne_nil (by simp)]
    cases q with
    | nil => simp
    | cons c rest =>
      have hc : c ≠ '/' := fun hEq => hFree (hEq ▸ List.mem_cons_self ..)
      simp [hc]

theorem named_of_name (hProper : ProperName n) : (Path.mk n).Named [] n where
  pieces := Text.pieces_of_not_mem hProper.noSlash
  proper := hProper

/-- A path that is not empty and does not ask for a directory has a last step. -/
theorem exists_last_step (hText : p.text.toList ≠ []) (hOpen : p.endsWithSeparator = false) :
    ∃ front n, p.steps = front ++ [n] := by
  refine (List.eq_nil_or_concat' p.steps).resolve_left fun hNil => ?_
  obtain ⟨ps, last, hPieces, hWhole⟩ := exists_last_piece p
  rw [Path.steps_eq, hPieces, stepsOf_append, List.append_eq_nil_iff] at hNil
  have hLast : last = [] := by simpa [stepsOf] using hNil.2
  subst hLast
  by_cases hSome : ps = []
  · rw [hSome] at hWhole
    exact hText (by simpa using hWhole)
  · rw [Text.intercalate_concat hSome] at hWhole
    simp [Path.endsWithSeparator, hWhole] at hOpen

/-- Steps are not empty and hold no separators. -/
theorem clean_of_mem_fullSteps {s : String} (hMem : s ∈ p.fullSteps) :
    '/' ∉ s.toList ∧ s.toList ≠ [] := by
  rw [fullSteps, List.mem_append] at hMem
  rcases hMem with hStep | hLast
  · rw [Path.steps_eq, stepsOf] at hStep
    obtain ⟨piece, hPiece, rfl⟩ := List.mem_map.mp hStep
    obtain ⟨hIn, hFilled⟩ := List.mem_filter.mp hPiece
    rw [String.toList_ofList]
    exact ⟨Text.not_mem_of_mem_pieces hIn, by simpa using hFilled⟩
  · split_ifs at hLast
    · rw [List.mem_singleton.mp hLast]
      exact ⟨by decide, by decide⟩
    · cases hLast

/-- A path that is not empty has a step. -/
theorem fullSteps_ne_nil (hText : p.text.toList ≠ []) : p.fullSteps ≠ [] := by
  rw [fullSteps]
  cases hOpen : p.endsWithSeparator with
  | true => simp
  | false =>
    obtain ⟨front, n, hSteps⟩ := exists_last_step hText hOpen
    simp [hSteps]

/-- A path whose last step is a name, and that does not ask for a directory, ends in it. -/
theorem exists_named {front : List String} (hSteps : p.steps = front ++ [n])
    (hOpen : p.endsWithSeparator = false) (hHere : n ≠ ".") (hUp : n ≠ "..") :
    ∃ ps, p.Named ps n ∧ front = stepsOf ps := by
  obtain ⟨ps, last, hPieces, hText⟩ := exists_last_piece p
  by_cases hLast : last = []
  · -- the text is empty or asks for a directory
    subst hLast
    by_cases hSome : ps = []
    · rw [Path.steps_eq, hPieces, hSome] at hSteps
      simp [stepsOf] at hSteps
    · rw [Text.intercalate_concat hSome] at hText
      simp [Path.endsWithSeparator, hText] at hOpen
  · have hSplit : stepsOf ps ++ [String.ofList last] = front ++ [n] := by
      rw [← hSteps, Path.steps_eq, hPieces, stepsOf_append]
      simp [stepsOf, hLast]
    obtain ⟨hFront, hName⟩ := List.append_inj' hSplit rfl
    have hn : n.toList = last := by
      rw [← List.singleton_inj.mp hName, String.toList_ofList]
    refine ⟨ps, ⟨by rw [hPieces, hn], ?_, by rw [hn]; exact hLast, hHere, hUp⟩, hFront.symm⟩
    have hMem : last ∈ Text.pieces '/' p.text.toList := by
      rw [← textPieces, hPieces]
      exact List.mem_append_right _ (List.mem_singleton_self last)
    rw [hn]
    exact Text.not_mem_of_mem_pieces hMem

-- ---------------------------------------------------------------------------
-- Components
-- ---------------------------------------------------------------------------

/-- The components that pieces stand for, each with the number of pieces up to it. -/
def spansOf (ps : List (List Char)) : List (Component × Nat) :=
  ps.zipIdx.filterMap fun (piece, i) => (Component.ofPiece? (i == 0) piece).map (·, i + 1)

theorem spansOf_concat (ps : List (List Char)) (last : List Char) :
    spansOf (ps ++ [last]) = spansOf ps ++
      ((Component.ofPiece? (ps.length == 0) last).map (·, ps.length + 1)).toList := by
  rw [spansOf, List.zipIdx_append, List.filterMap_append]
  congr 1
  cases hPiece : Component.ofPiece? (ps.length == 0) last <;> simp [hPiece]

/-- A proper name is read as one, wherever it stands. -/
theorem ofPiece?_of_proper (hProper : ProperName n) (first : Bool) :
    Component.ofPiece? first n.toList = some (.name n) := by
  have hHere : n.toList ≠ ['.'] := fun hEq => hProper.notHere (String.toList_inj.mp hEq)
  have hUp : n.toList ≠ ['.', '.'] := fun hEq => hProper.notUp (String.toList_inj.mp hEq)
  simp [Component.ofPiece?, hProper.notEmpty, hHere, hUp]

theorem Named.pieces_eq (h : p.Named ps n) : p.pieces = ps ++ [n.toList] := by
  have hSome : p.text.isEmpty = false := by
    obtain ⟨base, hText⟩ := h.exists_base
    rw [isEmpty_text_eq_false_iff, hText]
    simp [h.proper.notEmpty]
  rw [Path.pieces, hSome, ← h.pieces]
  rfl

theorem Named.spans_eq (h : p.Named ps n) :
    p.spans = spansOf ps ++ [(.name n, ps.length + 1)] := by
  rw [Path.spans, h.pieces_eq]
  show spansOf (ps ++ [n.toList]) = _
  rw [spansOf_concat, ofPiece?_of_proper h.proper]
  rfl

theorem Named.components_eq (h : p.Named ps n) :
    p.components = (spansOf ps).map (·.1) ++ [.name n] := by
  rw [components, h.spans_eq, List.map_append]
  rfl

theorem Named.fileName?_eq (h : p.Named ps n) : p.fileName? = some n := by
  rw [fileName?, h.components_eq, List.getLast?_concat]

-- ---------------------------------------------------------------------------
-- Entries of a directory
-- ---------------------------------------------------------------------------

/-- The pieces of a directory path, without the empty ones behind it. -/
def basePieces (p : Path) : List (List Char) :=
  if p.text.toList = [] then []
  else if p.text.toList.getLast? = some '/' then p.textPieces.dropLast else p.textPieces

/-- A path that ends with a separator has an empty last piece. -/
theorem exists_pieces_of_slash {p : Path} (hSlash : p.text.toList.getLast? = some '/') :
    ∃ base, p.text.toList = base ++ ['/'] ∧ p.textPieces = Text.pieces '/' base ++ [[]] := by
  obtain ⟨base, hBase⟩ := List.getLast?_eq_some_iff.mp hSlash
  refine ⟨base, hBase, ?_⟩
  rw [textPieces, hBase, Text.pieces_append_sep]
  rfl

/-- A text without separators, joined to a directory, is a piece behind those of the directory. -/
theorem textPieces_join (dir : Path) {t : String} (hFree : '/' ∉ t.toList) :
    (dir.join ⟨t⟩).textPieces = dir.basePieces ++ [t.toList] := by
  have hRelative := isAbsolute_of_free hFree
  have hBehind : ∀ {q : Path} {base : List Char}, q.text.toList = base ++ '/' :: t.toList →
      q.textPieces = Text.pieces '/' base ++ [t.toList] := by
    intro q base hText
    rw [textPieces, hText, Text.pieces_append_sep, Text.pieces_of_not_mem hFree]
  by_cases hEmpty : dir.text.toList = []
  · have hText : dir.text.isEmpty = true := isEmpty_text_iff.mpr hEmpty
    rw [join, if_pos (by simp [hText]), basePieces, if_pos hEmpty]
    exact Text.pieces_of_not_mem hFree
  · have hText : dir.text.isEmpty = false := isEmpty_text_eq_false_iff.mpr hEmpty
    rw [join, if_neg (by simp [hRelative, hText]), basePieces, if_neg hEmpty]
    by_cases hSlash : dir.text.toList.getLast? = some '/'
    · -- the separator is there already
      rw [if_pos (by simp [hSlash]), if_pos hSlash]
      obtain ⟨base, hBase, hPieces⟩ := exists_pieces_of_slash hSlash
      rw [hPieces, List.dropLast_concat]
      exact hBehind (by simp [hBase])
    · rw [if_neg (by simpa using hSlash), if_neg hSlash]
      exact hBehind (by simp)

/-- The path of an entry of a directory ends in the name of the entry. -/
theorem named_join (dir : Path) (hProper : ProperName n) :
    (dir.join ⟨n⟩).Named dir.basePieces n where
  pieces := textPieces_join dir hProper.noSlash
  proper := hProper

/-- The steps to an entry are those to the directory and its name. -/
theorem stepsOf_basePieces (dir : Path) : stepsOf dir.basePieces = dir.steps := by
  unfold basePieces
  split
  · rename_i hEmpty
    rw [Path.steps_eq, textPieces, hEmpty]
    rfl
  · split
    · rename_i hSlash
      obtain ⟨base, -, hPieces⟩ := exists_pieces_of_slash hSlash
      rw [Path.steps_eq, hPieces, List.dropLast_concat, stepsOf_append]
      simp [stepsOf]
    · rw [Path.steps_eq]

/-- An entry of a directory starts where the directory does. -/
theorem isAbsolute_join (dir : Path) (hProper : ProperName n) :
    (dir.join ⟨n⟩).isAbsolute = dir.isAbsolute := by
  have hRelative := isAbsolute_of_proper hProper
  by_cases hEmpty : dir.text.toList = []
  · have hText : dir.text.isEmpty = true := isEmpty_text_iff.mpr hEmpty
    rw [join, if_pos (by simp [hText]), hRelative, isAbsolute, hEmpty]
    rfl
  · have hText : dir.text.isEmpty = false := isEmpty_text_eq_false_iff.mpr hEmpty
    rw [join, if_neg (by simp [hRelative, hText])]
    split <;> simp [isAbsolute, List.head?_append_of_ne_nil _ hEmpty]

/-- The empty pieces behind a directory path are no components. -/
theorem components_basePieces (dir : Path) :
    (spansOf dir.basePieces).map (·.1) = dir.components := by
  show _ = (spansOf dir.pieces).map _
  congr 1
  by_cases hEmpty : dir.text.toList = []
  · have hText : dir.text.isEmpty = true := isEmpty_text_iff.mpr hEmpty
    rw [basePieces, if_pos hEmpty, Path.pieces, if_pos hText]
  · have hText : dir.text.isEmpty = false := isEmpty_text_eq_false_iff.mpr hEmpty
    rw [basePieces, if_neg hEmpty, Path.pieces, hText, if_neg Bool.false_ne_true]
    split
    · -- the empty piece behind the last separator is no component
      rename_i hSlash
      obtain ⟨base, -, hPieces⟩ := exists_pieces_of_slash hSlash
      have hLength : (Text.pieces '/' base).length ≠ 0 := by
        simpa using Text.pieces_ne_nil '/' base
      rw [hPieces, List.dropLast_concat, ← textPieces, hPieces, spansOf_concat]
      simp [Component.ofPiece?, hLength]
    · rfl

/-- An entry of a directory adds its name to the components. -/
theorem components_join (dir : Path) (hProper : ProperName n) :
    (dir.join ⟨n⟩).components = dir.components ++ [.name n] := by
  rw [(named_join dir hProper).components_eq, components_basePieces]

-- ---------------------------------------------------------------------------
-- Siblings
-- ---------------------------------------------------------------------------

/-- The last component that pieces stand for keeps all pieces but empty ones and single dots,
and the last piece that it keeps is not empty unless it is the first. -/
theorem exists_kept {ps : List (List Char)} (hSome : ps ≠ []) :
    ∃ before c count, spansOf ps = before ++ [(c, count)] ∧ 0 < count ∧ count ≤ ps.length ∧
      (∀ x ∈ ps.drop count, x = [] ∨ x = ['.']) ∧
      (ps.take count = [[]] ∨ (ps.take count).getLast? ≠ some []) := by
  induction ps using List.reverseRecOn with
  | nil => exact absurd rfl hSome
  | append_singleton ps last ih =>
    rw [spansOf_concat]
    cases hPiece : Component.ofPiece? (ps.length == 0) last with
    | some c =>
      refine ⟨spansOf ps, c, ps.length + 1, rfl, by omega, by simp, by simp, ?_⟩
      rw [List.take_of_length_le (by simp), List.getLast?_concat]
      by_cases hLast : last = []
      · -- only as the first piece an empty one is a component
        left
        subst hLast
        cases ps with
        | nil => rfl
        | cons q more => simp [Component.ofPiece?] at hPiece
      · right
        simpa using hLast
    | none =>
      have hLater : ps ≠ [] := by
        rintro rfl
        simp only [Component.ofPiece?, List.length_nil, beq_self_eq_true, if_true] at hPiece
        split_ifs at hPiece
      have hLast : last = [] ∨ last = ['.'] := by
        have hLength : (ps.length == 0) = false := by simpa using hLater
        simp only [Component.ofPiece?, hLength, Bool.false_eq_true, if_false] at hPiece
        split_ifs at hPiece with hNil hDot
        · exact Or.inl hNil
        · exact Or.inr hDot
      obtain ⟨before, c, count, hSpans, hPos, hLe, hRest, hKept⟩ := ih hLater
      refine ⟨before, c, count, by simpa using hSpans, hPos, by simp; omega, ?_, ?_⟩
      · intro x hMem
        rw [List.drop_append_of_le_length hLe] at hMem
        rcases List.mem_append.mp hMem with hOld | hNew
        · exact hRest x hOld
        · rw [List.mem_singleton.mp hNew]
          exact hLast
      · rwa [List.take_append_of_le_length hLe]

/-- Empty pieces and single dots are steps to the directory itself, or none. -/
theorem stepsOf_eq_replicate {qs : List (List Char)} (h : ∀ x ∈ qs, x = [] ∨ x = ['.']) :
    ∃ k, stepsOf qs = List.replicate k "." := by
  induction qs with
  | nil => exact ⟨0, rfl⟩
  | cons x rest ih =>
    obtain ⟨k, hRest⟩ := ih fun y hMem => h y (List.mem_cons_of_mem _ hMem)
    have hSplit : stepsOf (x :: rest) = stepsOf [x] ++ stepsOf rest :=
      stepsOf_append [x] rest
    rcases h x (List.mem_cons_self ..) with rfl | rfl
    · exact ⟨k, by rw [hSplit, hRest]; rfl⟩
    · exact ⟨k + 1, by rw [hSplit, hRest]; rfl⟩

/-- The text of the first pieces of a path has these pieces again. -/
theorem basePieces_upTo {kept : List (List Char)} {count : Nat}
    (hTake : p.pieces.take count = kept) (hSome : kept ≠ []) (hFree : ∀ q ∈ kept, '/' ∉ q)
    (hKept : kept = [[]] ∨ kept.getLast? ≠ some []) : (p.upTo count).basePieces = kept := by
  by_cases hRoot : kept = [[]]
  · rw [upTo, hTake, if_pos hRoot, hRoot]
    rfl
  · have hText : (p.upTo count).text.toList = List.intercalate ['/'] kept := by
      simp [upTo, hTake, hRoot]
    have hPieces : (p.upTo count).textPieces = kept := by
      rw [textPieces, hText, Text.pieces_intercalate hSome hFree]
    have hFilled : (p.upTo count).text.toList ≠ [] := by
      intro hNil
      rw [textPieces, hNil] at hPieces
      exact hRoot hPieces.symm
    have hOpen : (p.upTo count).text.toList.getLast? ≠ some '/' := by
      intro hSlash
      obtain ⟨base, -, hEmptyLast⟩ := exists_pieces_of_slash hSlash
      refine hKept.resolve_left hRoot ?_
      rw [← hPieces, hEmptyLast]
      exact List.getLast?_concat
    rw [basePieces, if_neg hFilled, if_neg hOpen, hPieces]

/-- **The path of a sibling leads through the same directory.** Its steps are those before the
name, up to steps to the directory itself, and it starts at the same place. -/
theorem Named.withFileName (h : p.Named ps n) {m : String} (hProper : ProperName m) :
    ∃ qs k, (p.withFileName m).Named qs m ∧ stepsOf ps = stepsOf qs ++ List.replicate k "." ∧
      qs.head? = ps.head? := by
  have hDir : p.withFileName m = (p.parent?.getD ⟨""⟩).join ⟨m⟩ := by
    rw [Path.withFileName, h.fileName?_eq]
    rfl
  by_cases hSome : ps = []
  · have hParent : p.parent? = some ⟨""⟩ := by
      rw [parent?, h.spans_eq, hSome]
      rfl
    refine ⟨[], 0, ?_, by simp [hSome, stepsOf], by rw [hSome]⟩
    rw [hDir, hParent]
    exact named_join ⟨""⟩ hProper
  · obtain ⟨before, c, count, hSpans, hPos, hLe, hRest, hKept⟩ := exists_kept hSome
    have hParent : p.parent? = some (p.upTo count) := by
      rw [parent?, h.spans_eq, hSpans]
      simp
    -- what is cut off are steps to the directory itself
    obtain ⟨k, hDots⟩ := stepsOf_eq_replicate hRest
    have hTake : p.pieces.take count = ps.take count := by
      rw [h.pieces_eq, List.take_append_of_le_length hLe]
    have hFree : ∀ q ∈ ps.take count, '/' ∉ q := by
      intro q hMem
      have hPiece : q ∈ p.textPieces := by
        rw [h.pieces]
        exact List.mem_append_left _ (List.mem_of_mem_take hMem)
      exact Text.not_mem_of_mem_pieces hPiece
    have hBase : (p.upTo count).basePieces = ps.take count := by
      refine basePieces_upTo hTake ?_ hFree hKept
      intro hNil
      rw [List.take_eq_nil_iff] at hNil
      rcases hNil with hZero | hNil
      · omega
      · exact hSome hNil
    refine ⟨ps.take count, k, ?_, ?_, ?_⟩
    · rw [hDir, hParent, ← hBase]
      exact named_join _ hProper
    · rw [← hDots, ← stepsOf_append, List.take_append_drop]
    · cases ps with
      | nil => exact absurd rfl hSome
      | cons q more =>
        obtain ⟨m, rfl⟩ : ∃ m, count = m + 1 := ⟨count - 1, by omega⟩
        rfl

end Path

end LicenseAudit
