import LicenseAudit.Proofs.Header.Overrides
import Mathlib.Data.List.Forall2

/-!
# Headers and the case of letters

A file is looked up under its name and under its extension, each lowercased on its own. Lowercasing
looks at the neighbours of a character, but not at the case of the letters of ASCII among them, and
the dot before the extension is no letter. So neither the case of these letters in the name of a
file matters, nor that in the keys of the overrides, nor the directory that the file is in.

* `SameLetters` — two texts that differ in the case of the letters of ASCII at most;
* `Path.NamedAlike` — two paths whose last names are such texts;
* `Adjustment.Alike` — two steps whose keys are such texts.

## Results

* `extensionOf?_map_toLower` — the extension of a name is found whatever the case of its letters.
* `NamedAlike.lowerName_eq`, `NamedAlike.lowerExtension_eq` — what such paths are looked up under.
* `adjusted_ignores_case` — the registry answers alike, and is the same after alike steps.
-/

namespace LicenseAudit

open Text

namespace Text

/-- Two texts that differ in the case of the letters of ASCII at most. -/
def SameLetters (s t : String) : Prop :=
  s.toList.map Char.toLower = t.toList.map Char.toLower

instance (s t : String) : Decidable (SameLetters s t) := by
  unfold SameLetters
  infer_instance

theorem SameLetters.lowercaseString_eq {s t : String} (h : SameLetters s t) :
    lowercaseString s = lowercaseString t := by
  unfold lowercaseString
  rw [← lowercase_map_toLower s.toList, h, lowercase_map_toLower]

theorem toLower_eq_dot_iff {c : Char} : c.toLower = '.' ↔ c = '.' :=
  decide_eq_decide.mp (apply_toLower (f := fun c => decide (c = '.')) (by decide) c)

/-- A text is cut at the same places if its characters are replaced, but no separators. -/
theorem pieces_map {f : Char → Char} {sep : Char} (hSep : ∀ c, f c = sep ↔ c = sep)
    (cs : List Char) : pieces sep (cs.map f) = (pieces sep cs).map (List.map f) := by
  induction cs with
  | nil => rfl
  | cons c rest ih =>
    obtain ⟨piece, more, hPieces⟩ := List.exists_cons_of_ne_nil (pieces_ne_nil sep rest)
    rw [hPieces, List.map_cons] at ih
    rw [List.map_cons, pieces, pieces, ih, hPieces]
    by_cases hHere : c = sep
    · rw [if_pos ((hSep c).mpr hHere), if_pos hHere]
      rfl
    · rw [if_neg (mt (hSep c).mp hHere), if_neg hHere]
      rfl

end Text

-- ---------------------------------------------------------------------------
-- Paths
-- ---------------------------------------------------------------------------

namespace Path

variable {p q : Path}

theorem extensionOf?_map_toLower (name : List Char) :
    extensionOf? (name.map Char.toLower) = (extensionOf? name).map (List.map Char.toLower) := by
  unfold extensionOf?
  rw [pieces_map fun c => toLower_eq_dot_iff, ← List.map_reverse]
  match (Text.pieces '.' name).reverse with
  | [] => rfl
  | [last] => rfl
  | [last, []] => rfl
  | last :: (c :: piece) :: more => rfl
  | last :: [] :: piece :: more => rfl

/-- The last names of the paths differ in the case of the letters of ASCII at most. The directories
do not matter. -/
def NamedAlike (p q : Path) : Prop :=
  p.fileName?.map (fun n => n.toList.map Char.toLower) =
    q.fileName?.map (fun n => n.toList.map Char.toLower)

instance (p q : Path) : Decidable (p.NamedAlike q) := by
  unfold NamedAlike
  infer_instance

theorem NamedAlike.cases (h : p.NamedAlike q) : (p.fileName? = none ∧ q.fileName? = none) ∨
    ∃ n m, p.fileName? = some n ∧ q.fileName? = some m ∧ SameLetters n m := by
  unfold NamedAlike at h
  cases hHere : p.fileName? with
  | none =>
    rw [hHere, Option.map_none, eq_comm, Option.map_eq_none_iff] at h
    exact Or.inl ⟨rfl, h⟩
  | some n =>
    rw [hHere, Option.map_some, eq_comm, Option.map_eq_some_iff] at h
    obtain ⟨m, hThere, hSame⟩ := h
    exact Or.inr ⟨n, m, rfl, hThere, hSame.symm⟩

theorem NamedAlike.lowerName_eq (h : p.NamedAlike q) : p.lowerName = q.lowerName := by
  unfold lowerName
  obtain ⟨hHere, hThere⟩ | ⟨n, m, hHere, hThere, hSame⟩ := h.cases
  · rw [hHere, hThere]
  · rw [hHere, hThere, Option.getD_some, Option.getD_some, hSame.lowercaseString_eq]

theorem NamedAlike.lowerExtension_eq (h : p.NamedAlike q) :
    p.lowerExtension = q.lowerExtension := by
  unfold lowerExtension extension?
  obtain ⟨hHere, hThere⟩ | ⟨n, m, hHere, hThere, hSame⟩ := h.cases
  · rw [hHere, hThere]
  have hLower : (extensionOf? n.toList).map (List.map Char.toLower) =
      (extensionOf? m.toList).map (List.map Char.toLower) := by
    rw [← extensionOf?_map_toLower, ← extensionOf?_map_toLower, hSame]
  rw [hHere, hThere, Option.bind_some, Option.bind_some]
  cases hFirst : extensionOf? n.toList with
  | none =>
    rw [hFirst, Option.map_none, eq_comm, Option.map_eq_none_iff] at hLower
    rw [hLower]
  | some e =>
    rw [hFirst, Option.map_some, eq_comm, Option.map_eq_some_iff] at hLower
    obtain ⟨e', hSecond, hLetters⟩ := hLower
    have hBoth : SameLetters (String.ofList e) (String.ofList e') := by
      unfold SameLetters
      rw [String.toList_ofList, String.toList_ofList, hLetters]
    rw [hSecond]
    exact hBoth.lowercaseString_eq

end Path

-- ---------------------------------------------------------------------------
-- Steps
-- ---------------------------------------------------------------------------

/-- The same step, up to the case of the letters of ASCII in its key. -/
inductive Adjustment.Alike : Adjustment → Adjustment → Prop where
  | licenseText (text : String) : Alike (.licenseText text) (.licenseText text)
  | extensionStyle {extension extension' : String} (style : CommentStyle)
      (hKey : SameLetters extension extension') :
      Alike (.extensionStyle extension style) (.extensionStyle extension' style)
  | fileNameStyle {name name' : String} (style : CommentStyle) (hKey : SameLetters name name') :
      Alike (.fileNameStyle name style) (.fileNameStyle name' style)

namespace Registry

variable {p q : Path} {history history' : List Adjustment}

theorem adjust_alike {a a' : Adjustment} (h : a.Alike a') (r : Registry) :
    r.adjust a = r.adjust a' := by
  cases h with
  | licenseText text => rfl
  | extensionStyle style hKey =>
    rw [adjust, adjust, withExtensionStyle, withExtensionStyle, hKey.lowercaseString_eq]
  | fileNameStyle style hKey =>
    rw [adjust, adjust, withFileNameStyle, withFileNameStyle, hKey.lowercaseString_eq]

/-- Alike steps make the same registry of every registry. -/
theorem foldl_adjust_alike (h : List.Forall₂ Adjustment.Alike history history') (r : Registry) :
    history.foldl adjust r = history'.foldl adjust r := by
  induction h generalizing r with
  | nil => rfl
  | cons hHere _ ih => rw [List.foldl_cons, List.foldl_cons, adjust_alike hHere, ih]

/-- A registry treats the paths alike, and so does the built-in table. -/
structure TreatsAlike (r : Registry) (p q : Path) : Prop where
  supports      : r.supports p = r.supports q
  headerFor?    : r.headerFor? p = r.headerFor? q
  builtinStyle? : builtinStyle? p = builtinStyle? q

/-- Paths that are named alike are treated alike by every registry. -/
theorem treatsAlike (r : Registry) (h : p.NamedAlike q) : r.TreatsAlike p q := by
  have hBuiltin : builtinStyle? p = builtinStyle? q := by
    unfold LicenseAudit.builtinStyle?
    rw [h.lowerName_eq, h.lowerExtension_eq]
  have hStyle : r.style? p = r.style? q := by
    unfold style?
    rw [h.lowerName_eq, h.lowerExtension_eq, hBuiltin]
  have hExcluded : isExcluded p = isExcluded q := by
    unfold isExcluded
    rw [h.lowerName_eq]
  refine ⟨?_, ?_, hBuiltin⟩
  · unfold supports
    rw [hExcluded, hStyle]
  · unfold headerFor?
    rw [hExcluded, hStyle]

/-- Whatever the history of a registry, neither the case of the letters of ASCII in the name of a
file matters nor its directory, and the case of the letters in the keys does not matter either. -/
theorem adjusted_ignores_case (history : List Adjustment) :
    (∀ p q : Path, p.NamedAlike q → (adjusted history).TreatsAlike p q) ∧
      ∀ history', List.Forall₂ Adjustment.Alike history history' →
        adjusted history' = adjusted history :=
  ⟨fun _ _ hNames => treatsAlike _ hNames, fun _ hSteps => (foldl_adjust_alike hSteps builtin).symm⟩

/-- A file that is written in capitals elsewhere, and a key in capitals. -/
theorem adjusted_ignores_case_notes :
    ((⟨"docs/notes.txt"⟩ : Path).NamedAlike ⟨"/tmp/Notes.TXT"⟩ ∧
        (adjusted [.extensionStyle "txt" .hash]).TreatsAlike ⟨"docs/notes.txt"⟩
          ⟨"/tmp/Notes.TXT"⟩) ∧
      adjusted [.extensionStyle "TXT" .hash] = adjusted [.extensionStyle "txt" .hash] := by
  have hNames : (⟨"docs/notes.txt"⟩ : Path).NamedAlike ⟨"/tmp/Notes.TXT"⟩ := by decide +kernel
  have hKey : SameLetters "txt" "TXT" := by decide
  obtain ⟨hPaths, hSteps⟩ := adjusted_ignores_case [.extensionStyle "txt" .hash]
  exact ⟨⟨hNames, hPaths _ _ hNames⟩, hSteps _ (.cons (.extensionStyle _ hKey) .nil)⟩

end Registry

end LicenseAudit
