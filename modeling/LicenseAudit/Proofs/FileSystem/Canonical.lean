import LicenseAudit.Proofs.FileSystem.Lists

/-!
# Canonical paths

A place has one absolute path without links, made of the names that lead to it. Paths to one place
have it in common.

## Results

* `components_pathOf` — the canonical path of a place is made of the names that lead to it.
* `canonical_eq_ok_iff` — what has a canonical path, and which.
* `canonical_eq_of_same` — canonical paths with the same components are the same text.
-/

namespace LicenseAudit.FileSystem

variable {fs : FileSystem} {p q c c' : Path} {l : Location}

-- ---------------------------------------------------------------------------
-- The path of a place
-- ---------------------------------------------------------------------------

/-- The components of an absolute path, by the names between its separators. -/
theorem spansOf_absolute {names : List String} (hProper : ∀ n ∈ names, ProperName n) :
    (Path.spansOf ([] :: names.map String.toList)).map (·.1) = .root :: names.map .name := by
  induction names using List.reverseRecOn with
  | nil => rfl
  | append_singleton front last ih =>
    have hLast : ProperName last := hProper last (by simp)
    rw [List.map_append, List.map_singleton, ← List.cons_append, Path.spansOf_concat,
      Path.ofPiece?_of_proper hLast, List.map_append, ih fun n hMem => hProper n (by simp [hMem])]
    simp

/-- The canonical path of a place is made of the names that lead to it. -/
theorem components_pathOf (hProper : ∀ n ∈ l, ProperName n) :
    (pathOf l).components = .root :: l.reverse.map .name := by
  have hNames : ∀ n ∈ l.reverse, ProperName n :=
    fun n hMem => hProper n (List.mem_reverse.mp hMem)
  have hText : (pathOf l).text.toList =
      '/' :: List.intercalate ['/'] (l.reverse.map String.toList) := by
    simp [pathOf, String.toList_intercalate]
  have hPieces : (pathOf l).pieces =
      [] :: Text.pieces '/' (List.intercalate ['/'] (l.reverse.map String.toList)) := by
    have hSome : (pathOf l).text.isEmpty = false := by
      rw [Path.isEmpty_text_eq_false_iff, hText]
      exact List.cons_ne_nil _ _
    rw [Path.pieces, hSome, hText]
    rfl
  show (Path.spansOf (pathOf l).pieces).map (·.1) = _
  rw [hPieces]
  cases hl : l.reverse with
  | nil => rfl
  | cons n more =>
    rw [hl] at hNames
    rw [Text.pieces_intercalate (by simp), spansOf_absolute hNames]
    intro piece hMem
    obtain ⟨m, hIn, rfl⟩ := List.mem_map.mp hMem
    exact (hNames m hIn).noSlash

/-- A place is known by its canonical path. -/
theorem eq_of_same_pathOf {l' : Location} (hProper : ∀ n ∈ l, ProperName n)
    (hProper' : ∀ n ∈ l', ProperName n) (h : (pathOf l).same (pathOf l') = true) : l = l' := by
  have hSame : (pathOf l).components = (pathOf l').components := eq_of_beq h
  rw [components_pathOf hProper, components_pathOf hProper'] at hSame
  have hInjective : Function.Injective Component.name := fun _ _ hName => Component.name.inj hName
  exact List.reverse_injective (List.map_injective_iff.mpr hInjective (List.cons.inj hSame).2)

-- ---------------------------------------------------------------------------
-- Canonical paths and places
-- ---------------------------------------------------------------------------

/-- A path has the canonical path of the place that it leads to, if something stands there. -/
theorem canonical_eq_ok_iff :
    fs.canonical p = .ok c ↔ p.text.toList.contains '\x00' = false ∧ p.text.isEmpty = false ∧
      ∃ l, fs.walkWithin true linkLimit (fs.start p) p.fullSteps = .ok l ∧
        fs.lookup? l ≠ none ∧ c = pathOf l := by
  rw [canonical]
  cases hZero : p.text.toList.contains '\x00' with
  | true => simp [bind, Except.bind]
  | false =>
    cases hEmpty : p.text.isEmpty with
    | true => simp [bind, Except.bind]
    | false =>
      cases hWalk : fs.walkWithin true linkLimit (fs.start p) p.fullSteps with
      | error cause => simp [bind, Except.bind]
      | ok l =>
        cases hEntry : fs.lookup? l with
        | none => simp [bind, Except.bind, hEntry]
        | some e => simp [bind, Except.bind, pure, Except.pure, hEntry, eq_comm]

/-- What can be read has a canonical path. -/
theorem canonical_of_locate {e : Entry} (hLocate : fs.locate true p = .ok l)
    (hEntry : fs.lookup? l = some e) : fs.canonical p = .ok (pathOf l) := by
  obtain ⟨hText, hWalk⟩ := locate_eq_ok_iff.mp hLocate
  have hZero : p.text.toList.contains '\x00' = false := by
    by_contra hNot
    rw [checkText, if_pos (by simpa using hNot)] at hText
    cases hText
  refine canonical_eq_ok_iff.mpr ⟨hZero, Path.isEmpty_text_eq_false_iff.mpr
    (filled_of_checkText hText), l, hWalk, ?_, rfl⟩
  rw [hEntry]
  exact Option.some_ne_none e

/-- Canonical paths with the same components are the same. -/
theorem canonical_eq_of_same (hTree : fs.WellFormed) (hFirst : fs.canonical p = .ok c)
    (hSecond : fs.canonical q = .ok c') (h : c.same c' = true) : c = c' := by
  have hProper : ∀ {l : Location}, fs.lookup? l ≠ none → ∀ n ∈ l, ProperName n := by
    intro l hSome n hMem
    obtain ⟨e, hEntry⟩ := Option.ne_none_iff_exists'.mp hSome
    have hBelow : fs.lookup? (Location.below [] l.reverse) = some e := by
      rwa [Location.below, List.reverse_reverse, List.append_nil]
    exact hTree.properNames hBelow n (List.mem_reverse.mpr hMem)
  obtain ⟨-, -, l, -, hEntry, rfl⟩ := canonical_eq_ok_iff.mp hFirst
  obtain ⟨-, -, l', -, hEntry', rfl⟩ := canonical_eq_ok_iff.mp hSecond
  rw [eq_of_same_pathOf (hProper hEntry) (hProper hEntry') h]

end LicenseAudit.FileSystem
