import LicenseAudit.Proofs.Config.Order
import LicenseAudit.Proofs.Path.Parts

/-!
# Whether comment styles take effect

A configuration sets comment styles under extensions and under file names. A file is looked up
under its name and then under what stands behind the last dot of its name, both in lower case. So
an extension with a dot inside is never asked for, nor is an empty one, and of the keys that are
the same in lower case only one is kept.

* `Path.Bears` — a file that is named with an extension;
* `Draft.Covers` — a file that is to take the style of an extension;
* `Registry.Styled` — a file that takes its header in a style;
* `Config.StylesApply` — every style of a configuration text takes effect;
* `Draft.Effective` — nothing in the draft keeps a style from taking effect.

## Results

* `Registry.style?_of_covers` — how a file with an extension is looked up.
* `Config.stylesApply_iff` — the styles of a text apply exactly when its draft is effective.
* `Config.not_stylesApply_inner_dot` — the style of an extension with a dot inside.
-/

namespace LicenseAudit

open Text

-- ---------------------------------------------------------------------------
-- Files with an extension
-- ---------------------------------------------------------------------------

/-- What stands behind the last dot of an extension, or all of it where there is none, in lower
case. Files that are named with the extension are looked up under it. -/
def lastPart (extension : String) : String :=
  lowercaseString (String.ofList ((Text.pieces '.' extension.toList).getLast?.getD []))

/-- The file is named with the extension. -/
def Path.Bears (p : Path) (extension : String) : Prop :=
  ∃ stem, stem ≠ "" ∧ p.fileName? = some (stem ++ "." ++ extension)

theorem lastPart_of_not_mem {extension : String} (h : '.' ∉ extension.toList) :
    lastPart extension = lowercaseString extension := by
  rw [lastPart, pieces_of_not_mem h]
  exact congrArg lowercaseString String.ofList_toList

namespace Path

variable {p : Path} {extension : String}

/-- Behind a text and a dot the last part is the extension. -/
theorem extensionOf?_append {stem rest last : List Char} {front : List (List Char)}
    (hStem : stem ≠ []) (hRest : Text.pieces '.' rest = front ++ [last]) :
    extensionOf? (stem ++ '.' :: rest) = some last := by
  have hBefore : front.reverse ++ (Text.pieces '.' stem).reverse ≠ [] := by
    simpa using fun _ => pieces_ne_nil '.' stem
  have hFilled : front.reverse ++ (Text.pieces '.' stem).reverse ≠ [[]] := by
    intro hSame
    obtain ⟨rfl, hOne⟩ : front = [] ∧ Text.pieces '.' stem = [[]] := by
      simpa [List.append_eq_singleton_iff, pieces_ne_nil] using hSame
    refine hStem ?_
    rw [← intercalate_pieces '.' stem, hOne]
    rfl
  rw [extensionOf?, pieces_append_sep, hRest, List.reverse_append, List.reverse_append,
    List.reverse_singleton, List.append_assoc, List.singleton_append]
  generalize front.reverse ++ (Text.pieces '.' stem).reverse = others at hBefore hFilled
  match others with
  | [] => exact absurd rfl hBefore
  | [[]] => exact absurd rfl hFilled
  | (c :: piece) :: more => rfl
  | [] :: piece :: more => rfl

theorem Bears.lowerExtension_eq (h : p.Bears extension) :
    p.lowerExtension = lastPart extension := by
  obtain ⟨stem, hStem, hName⟩ := h
  obtain ⟨front, last, hLast⟩ := (List.eq_nil_or_concat'
    (Text.pieces '.' extension.toList)).resolve_left (pieces_ne_nil '.' extension.toList)
  have hText : (stem ++ "." ++ extension).toList = stem.toList ++ '.' :: extension.toList := by
    simp
  have hFound : p.extension? = some (String.ofList last) := by
    rw [extension?, hName, Option.bind_some, hText,
      extensionOf?_append (mt String.toList_eq_nil_iff.mp hStem) hLast]
    rfl
  rw [lowerExtension, hFound, lastPart, hLast, List.getLast?_concat]
  rfl

/-- No file name that is known without its extension has a dot behind its first character. -/
theorem Bears.lowerName_not_mem (h : p.Bears extension) : p.lowerName ∉ hashNames := by
  obtain ⟨stem, hStem, hName⟩ := h
  obtain ⟨c, rest, hText⟩ := List.exists_cons_of_ne_nil (mt String.toList_eq_nil_iff.mp hStem)
  obtain ⟨first, more, hFirst⟩ :=
    exists_lowercaseAfter_cons [] c (rest ++ '.' :: extension.toList)
  have hDot : '.' ∈ p.lowerName.toList.tail := by
    have hLower : p.lowerName.toList =
        first :: more ++ lowercaseAfter [c] (rest ++ '.' :: extension.toList) := by
      rw [← hFirst, lowerName, hName, Option.getD_some, lowercaseString, String.toList_ofList,
        lowercase]
      simp [hText]
    rw [hLower, List.cons_append, List.tail_cons]
    refine List.mem_append_right _ (mem_lowercaseAfter (by decide) _ ?_)
    exact List.mem_append_right _ List.mem_cons_self
  have hNames : ∀ name ∈ hashNames, '.' ∉ name.toList.tail := by decide
  exact fun hMem => hNames _ hMem hDot

theorem Bears.builtinStyle?_eq (h : p.Bears extension) :
    builtinStyle? p = styleOfName? "" (lastPart extension) := by
  have hNone : "" ∉ hashNames := by decide +kernel
  rw [builtinStyle?, h.lowerExtension_eq, styleOfName?, styleOfName?,
    if_neg h.lowerName_not_mem, if_neg hNone]

end Path

-- ---------------------------------------------------------------------------
-- Tables in force
-- ---------------------------------------------------------------------------

namespace StyleTable

variable {t t' u : StyleTable} {key : String} {style : CommentStyle}

/-- What the second table has under a key in lower case is the style of an entry of the first. -/
structure Serves (t u : StyleTable) : Prop where
  sound : ∀ {key : String} {style : CommentStyle}, u.lookup key = some style →
    ∃ e ∈ t, lowercaseString e.1 = key ∧ e.2 = style
  found : ∀ e ∈ t, u.lookup (lowercaseString e.1) ≠ none

theorem Serves.lookup_eq_none (h : t.Serves u) (hNone : ∀ e ∈ t, lowercaseString e.1 ≠ key) :
    u.lookup key = none := by
  refine Option.eq_none_iff_forall_ne_some.mpr fun style hFound => ?_
  obtain ⟨e, hMem, hKey, -⟩ := h.sound hFound
  exact hNone e hMem hKey

/-- Where all entries of a key agree, their style is found. -/
theorem Serves.lookup_eq_some (h : t.Serves u) {e : String × CommentStyle} (hMem : e ∈ t)
    (hAgree : ∀ e' ∈ t, lowercaseString e'.1 = lowercaseString e.1 → e'.2 = style) :
    u.lookup (lowercaseString e.1) = some style := by
  obtain ⟨style', hFound⟩ := Option.ne_none_iff_exists'.mp (h.found e hMem)
  obtain ⟨e', hMem', hKey, rfl⟩ := h.sound hFound
  rw [hFound, hAgree e' hMem' hKey]

/-- In every order the table of a registry serves the table as written. -/
theorem serves_of_perm (hPerm : t.Perm t') (hPerm' : (lowered t').Perm u) :
    t.Serves u.reverse := by
  have hAll : (lowered t').Perm u.reverse := hPerm'.trans (List.reverse_perm u).symm
  have hKeys := ((inLowerCase_lowered t').perm hAll).keys
  refine ⟨fun hFound => ?_, fun e hMem => ?_⟩
  · rw [lookup_eq_some_iff hKeys, ← hAll.mem_iff] at hFound
    obtain ⟨e, hMem, hEntry⟩ := exists_of_mem_lowered hFound
    obtain ⟨rfl, rfl⟩ := Prod.mk.inj hEntry
    exact ⟨e, hPerm.mem_iff.mpr hMem, rfl, rfl⟩
  · obtain ⟨style, hStyle⟩ := exists_mem_lowered (hPerm.mem_iff.mp hMem)
    rw [hAll.mem_iff, ← lookup_eq_some_iff hKeys] at hStyle
    rw [hStyle]
    exact Option.some_ne_none style

/-- In some order the table of a registry has the style of a given entry. -/
theorem exists_perm_lookup {e : String × CommentStyle} (hMem : e ∈ t) :
    ∃ t', t.Perm t' ∧ (lowered t').reverse.lookup (lowercaseString e.1) = some e.2 := by
  obtain ⟨t', hPerm, hLast⟩ := exists_perm_mem_lowered hMem
  have hAll : (lowered t').Perm (lowered t').reverse := (List.reverse_perm _).symm
  refine ⟨t', hPerm, ?_⟩
  rwa [lookup_eq_some_iff ((inLowerCase_lowered t').perm hAll).keys, ← hAll.mem_iff]

end StyleTable

namespace Config

variable {text : String} {path : Path} {d : Draft} {c : Config} {r : Registry}

/-- A registry serves the tables that its configuration was written with, which had no fault. -/
theorem serves_of_builds (hDraft : Draft.parse text = .ok d) (hParses : Parses text path (.ok c))
    {header? : Option String} (hBuilds : Builds { c with headerText? := header? } r) :
    d.fault? = none ∧ d.extensionStyles.Serves r.extensionStyles ∧
      d.fileNameStyles.Serves r.fileNameStyles := by
  cases hParses with
  | @written _ d' _ hParse hOrder hAccept =>
    obtain rfl : _ = d := Except.ok.inj (hParse.symm.trans hDraft)
    have hSound := (Draft.fault?_of_accept hAccept).1
    rw [Draft.accept_of_fault?_eq_none hSound] at hAccept
    obtain rfl := Except.ok.inj hAccept
    rw [Draft.fault?_eq_none_iff_of_rearranged hOrder] at hSound
    obtain ⟨c', hOrder', rfl⟩ := hBuilds
    have hExtensions : c'.extensionStyles.InLowerCase :=
      (StyleTable.inLowerCase_lowered _).perm hOrder'.extensionStyles
    have hFileNames : c'.fileNameStyles.InLowerCase :=
      (StyleTable.inLowerCase_lowered _).perm hOrder'.fileNameStyles
    rw [Registry.ofConfig_extensionStyles hExtensions,
      Registry.ofConfig_fileNameStyles hFileNames]
    cases hOrder with
    | intro hPerm hPerm' =>
      exact ⟨hSound, StyleTable.serves_of_perm hPerm hOrder'.extensionStyles,
        StyleTable.serves_of_perm hPerm' hOrder'.fileNameStyles⟩

/-- A draft without faults can be put in force in every order. -/
theorem exists_builds (path : Path) (hDraft : Draft.parse text = .ok d) (hSound : d.fault? = none)
    {extensions fileNames : StyleTable} (hExtensions : d.extensionStyles.Perm extensions)
    (hFileNames : d.fileNameStyles.Perm fileNames) :
    ∃ c r, Parses text path (.ok c) ∧ c.Builds r ∧
      r.extensionStyles = extensions.lowered.reverse ∧
      r.fileNameStyles = fileNames.lowered.reverse := by
  have hOrder : d.Rearranged (d.withStyles extensions fileNames) := .intro hExtensions hFileNames
  have hAccept := Draft.accept_of_fault?_eq_none
    ((Draft.fault?_eq_none_iff_of_rearranged hOrder).mpr hSound)
  refine ⟨_, _, .written hDraft hOrder hAccept, ⟨_, .refl _, rfl⟩, ?_, ?_⟩
  · exact Registry.ofConfig_extensionStyles (StyleTable.inLowerCase_lowered _)
  · exact Registry.ofConfig_fileNameStyles (StyleTable.inLowerCase_lowered _)

end Config

-- ---------------------------------------------------------------------------
-- Styles that take effect
-- ---------------------------------------------------------------------------

/-- The file is supported, and the license text is rendered for it in the style. -/
structure Registry.Styled (r : Registry) (p : Path) (style : CommentStyle) : Prop where
  supported : r.supports p = true
  found     : r.style? p = some style
  header    : r.headerFor? p = some (style.render r.licenseText)

theorem Registry.styled_of_style? {r : Registry} {p : Path} {style : CommentStyle}
    (hTaken : isExcluded p = false) (hStyle : r.style? p = some style) : r.Styled p style where
  supported := by
    rw [supports, hTaken, hStyle]
    rfl
  found := hStyle
  header := by
    rw [headerFor?, hTaken, hStyle]
    rfl

/-- The file is named with the extension, no style is set for its name, and it is none of those
that never take a header. -/
structure Draft.Covers (d : Draft) (extension : String) (p : Path) : Prop where
  bears : p.Bears extension
  free  : ∀ e ∈ d.fileNameStyles, lowercaseString e.1 ≠ p.lowerName
  taken : Registry.isExcluded p = false

/-- The style of every extension is that of the files named with it, and the style of every file
name that of the files with this name. -/
structure Draft.TakesEffect (d : Draft) (r : Registry) : Prop where
  extensions : ∀ e ∈ d.extensionStyles, ∀ p, d.Covers e.1 p → r.Styled p e.2
  fileNames  : ∀ e ∈ d.fileNameStyles, ∀ p, p.fileName? = some e.1 →
    Registry.isExcluded p = false → r.Styled p e.2

/-- Every style of the configuration text takes effect, in all orders of the hash maps and with
any license text. -/
def Config.StylesApply (text : String) (path : Path) : Prop :=
  ∀ d c header? r, Draft.parse text = .ok d → Parses text path (.ok c) →
    Builds { c with headerText? := header? } r → d.TakesEffect r

/-- The style of the extension is the one that is found behind the last dot: under a part that is
not empty, all entries agree on it, and without an entry it is the built-in one. -/
structure Draft.Reaches (d : Draft) (extension : String) (style : CommentStyle) : Prop where
  filled : lastPart extension ≠ ""
  agrees : ∀ e ∈ d.extensionStyles, lowercaseString e.1 = lastPart extension → e.2 = style
  known  : (∀ e ∈ d.extensionStyles, lowercaseString e.1 ≠ lastPart extension) →
    styleOfName? "" (lastPart extension) = some style

/-- Nothing keeps a style from taking effect. Of an extension or a file name that no file can have
nothing is asked. -/
structure Draft.Effective (d : Draft) : Prop where
  extensions : ∀ e ∈ d.extensionStyles, (∃ p, d.Covers e.1 p) → d.Reaches e.1 e.2
  fileNames  : ∀ e ∈ d.fileNameStyles,
    (∃ p : Path, p.fileName? = some e.1 ∧ Registry.isExcluded p = false) →
    ∀ e' ∈ d.fileNameStyles, lowercaseString e'.1 = lowercaseString e.1 → e'.2 = e.2

namespace Registry

variable {d : Draft} {r : Registry} {p : Path} {extension : String}

/-- A file with an extension is looked up under its last part, if this is not empty. -/
theorem style?_of_covers (h : d.Covers extension p)
    (hFileNames : d.fileNameStyles.Serves r.fileNameStyles) :
    r.style? p = if lastPart extension = "" then none
      else (r.extensionStyles.lookup (lastPart extension)).or
        (styleOfName? "" (lastPart extension)) := by
  rw [style?, hFileNames.lookup_eq_none h.free, h.bears.lowerExtension_eq, h.bears.builtinStyle?_eq]
  by_cases hEmpty : lastPart extension = ""
  · rw [hEmpty]
    rfl
  · have hFilled : (lastPart extension).isEmpty = false := by
      rwa [← Bool.not_eq_true, String.isEmpty_iff]
    rw [if_neg hEmpty, hFilled]
    rfl

/-- A file whose name has a style takes this style. -/
theorem style?_of_fileName {n : String} {style : CommentStyle} (hName : p.fileName? = some n)
    (hStyle : r.fileNameStyles.lookup (lowercaseString n) = some style) :
    r.style? p = some style := by
  rw [style?, Path.lowerName, hName, Option.getD_some, hStyle]

end Registry

namespace Draft

variable {d : Draft} {r : Registry}

/-- The styles of an effective draft take effect. -/
theorem Effective.takesEffect (h : d.Effective)
    (hExtensions : d.extensionStyles.Serves r.extensionStyles)
    (hFileNames : d.fileNameStyles.Serves r.fileNameStyles) : d.TakesEffect r := by
  refine ⟨fun e hMem p hCovers => ?_, fun e hMem p hName hTaken => ?_⟩
  · obtain ⟨hFilled, hAgrees, hKnown⟩ := h.extensions e hMem ⟨p, hCovers⟩
    refine Registry.styled_of_style? hCovers.taken ?_
    rw [Registry.style?_of_covers hCovers hFileNames, if_neg hFilled]
    by_cases hNone : ∀ e' ∈ d.extensionStyles, lowercaseString e'.1 ≠ lastPart e.1
    · rw [hExtensions.lookup_eq_none hNone, Option.none_or, hKnown hNone]
    · push Not at hNone
      obtain ⟨e', hMem', hKey⟩ := hNone
      rw [← hKey, hExtensions.lookup_eq_some hMem' fun e'' hMem'' hKey'' =>
        hAgrees e'' hMem'' (hKey''.trans hKey), Option.some_or]
  · refine Registry.styled_of_style? hTaken (Registry.style?_of_fileName hName ?_)
    exact hFileNames.lookup_eq_some hMem (h.fileNames e hMem ⟨p, hName, hTaken⟩)

/-- Extensions without dots are effective, as are file names, where the keys that are the same in
lower case agree. -/
theorem effective_of_plain
    (hPlain : ∀ e ∈ d.extensionStyles, e.1 ≠ "" ∧ '.' ∉ e.1.toList)
    (hExtensions : d.extensionStyles.Coherent) (hFileNames : d.fileNameStyles.Coherent) :
    d.Effective := by
  refine ⟨fun e hMem _ => ?_, fun e hMem _ e' hMem' hKey => hFileNames e' hMem' e hMem hKey⟩
  obtain ⟨hFilled, hNoDot⟩ := hPlain e hMem
  have hPart := lastPart_of_not_mem hNoDot
  refine ⟨?_, fun e' hMem' hKey => ?_, fun hNone => ?_⟩
  · rw [hPart]
    exact lowercaseString_ne_empty hFilled
  · exact hExtensions e' hMem' e hMem (hKey.trans hPart)
  · exact absurd hPart.symm (hNone e hMem)

end Draft

namespace Config

variable {text : String} {path : Path} {d : Draft}

/-- In some order each entry is the one whose style is found. If its style takes effect in all
orders, then the draft is effective. -/
theorem StylesApply.effective (h : StylesApply text path) (hDraft : Draft.parse text = .ok d)
    (hSound : d.fault? = none) : d.Effective := by
  have hTakes : ∀ {extensions fileNames : StyleTable}, d.extensionStyles.Perm extensions →
      d.fileNameStyles.Perm fileNames → ∃ r : Registry, d.TakesEffect r ∧
        d.fileNameStyles.Serves r.fileNameStyles ∧
        r.extensionStyles = extensions.lowered.reverse ∧
        r.fileNameStyles = fileNames.lowered.reverse := by
    intro extensions fileNames hExtensions hFileNames
    obtain ⟨c, r, hParses, hBuilds, hTable, hTable'⟩ :=
      exists_builds path hDraft hSound hExtensions hFileNames
    have hServes : d.fileNameStyles.Serves r.fileNameStyles := by
      rw [hTable']
      exact StyleTable.serves_of_perm hFileNames (.refl _)
    exact ⟨r, h d c c.headerText? r hDraft hParses hBuilds, hServes, hTable, hTable'⟩
  refine ⟨fun e hMem ⟨p, hCovers⟩ => ⟨fun hEmpty => ?_, fun e' hMem' hKey => ?_, fun hNone => ?_⟩,
    fun e hMem ⟨p, hName, hTaken⟩ e' hMem' hKey => ?_⟩
  · obtain ⟨r, hEffect, hServes, -⟩ := hTakes (.refl _) (.refl _)
    have hStyle := (hEffect.extensions e hMem p hCovers).found
    rw [Registry.style?_of_covers hCovers hServes, if_pos hEmpty] at hStyle
    cases hStyle
  · obtain ⟨extensions, hPerm, hFound⟩ := StyleTable.exists_perm_lookup hMem'
    obtain ⟨r, hEffect, hServes, hTable, -⟩ := hTakes hPerm (.refl _)
    have hStyle := (hEffect.extensions e hMem p hCovers).found
    rw [hKey, ← hTable] at hFound
    rw [Registry.style?_of_covers hCovers hServes, hFound] at hStyle
    split_ifs at hStyle
    exact Option.some.inj hStyle
  · obtain ⟨r, hEffect, hServes, hTable, -⟩ := hTakes (.refl _) (.refl _)
    have hStyle := (hEffect.extensions e hMem p hCovers).found
    have hLookup : r.extensionStyles.lookup (lastPart e.1) = none := by
      rw [hTable]
      exact (StyleTable.serves_of_perm (.refl _) (.refl _)).lookup_eq_none hNone
    rw [Registry.style?_of_covers hCovers hServes, hLookup, Option.none_or] at hStyle
    split_ifs at hStyle
    exact hStyle
  · obtain ⟨fileNames, hPerm, hFound⟩ := StyleTable.exists_perm_lookup hMem'
    obtain ⟨r, hEffect, -, -, hTable⟩ := hTakes (.refl _) hPerm
    have hStyle := (hEffect.fileNames e hMem p hName hTaken).found
    rw [hKey, ← hTable] at hFound
    rw [Registry.style?_of_fileName hName hFound] at hStyle
    exact Option.some.inj hStyle

/-- **When every style takes effect.** The styles of a configuration text apply, in all orders of
the hash maps, exactly when the text is refused or its draft is effective. -/
theorem stylesApply_iff (text : String) (path : Path) :
    StylesApply text path ↔
      ∀ d, Draft.parse text = .ok d → d.fault? = none → d.Effective := by
  constructor
  · exact fun h d hDraft hSound => h.effective hDraft hSound
  · intro h d c header? r hDraft hParses hBuilds
    obtain ⟨hSound, hExtensions, hFileNames⟩ := serves_of_builds hDraft hParses hBuilds
    exact (h d hDraft hSound).takesEffect hExtensions hFileNames

/-- A document that sets the style of an extension and that of a file name. -/
def plainKeys : String :=
  "[comment-styles.xyz]\nmiddle = \"## \"\n[filenames.Justfile]\nmiddle = \"# \"\n"

/-- Both styles take effect. -/
theorem stylesApply_plain_keys : StylesApply plainKeys ⟨".asflint.toml"⟩ := by
  refine (stylesApply_iff _ _).mpr fun d hDraft _ => ?_
  have hParse : Draft.parse plainKeys =
      .ok ⟨none, none, none, none, none, [], [], [("xyz", .line "## ")],
        [("Justfile", .line "# ")]⟩ := by
    decide +kernel
  obtain rfl := Except.ok.inj (hParse.symm.trans hDraft)
  exact Draft.effective_of_plain (by decide) (by decide) (by decide)

/-- A document that sets the style of an extension with a dot inside. -/
def innerDot : String :=
  "[comment-styles.\"tmpl.html\"]\ntop = \"\x7b#\"\nmiddle = \"  \"\nbottom = \"#\x7d\"\n"

/-- A file with this extension gets the header of its last part. -/
theorem not_stylesApply_inner_dot : ¬ StylesApply innerDot ⟨".asflint.toml"⟩ := by
  intro h
  have hDraft : Draft.parse innerDot =
      .ok (onlyExtensions [("tmpl.html", ⟨"\x7b#", "  ", "#\x7d"⟩)]) := by decide +kernel
  have hParses : Parses innerDot ⟨".asflint.toml"⟩
      (.ok ⟨onlyExtensions [("tmpl.html", ⟨"\x7b#", "  ", "#\x7d"⟩)], none⟩) :=
    .written hDraft (.refl _) (by decide)
  have hEffect := h _ _ none _ hDraft hParses ⟨_, .refl _, rfl⟩
  have hBears : Path.Bears ⟨"x.tmpl.html"⟩ "tmpl.html" := ⟨"x", by decide, by decide⟩
  have hTaken : Registry.isExcluded ⟨"x.tmpl.html"⟩ = false := by decide
  have hHeader := (hEffect.extensions _ List.mem_cons_self _
    ⟨hBears, fun e hMem => absurd hMem List.not_mem_nil, hTaken⟩).header
  have hStyle : (Registry.ofConfig (some ⟨onlyExtensions
      [("tmpl.html", ⟨"\x7b#", "  ", "#\x7d"⟩)], none⟩)).style? ⟨"x.tmpl.html"⟩ =
        some .markup := by decide
  -- the two headers begin with different markers
  obtain ⟨header, hBuiltin, hTop⟩ := Registry.exists_header_of_style? hTaken hStyle
  rw [hBuiltin, Option.some.injEq] at hHeader
  have hTop' := CommentStyle.prefix_render ⟨"\x7b#", "  ", "#\x7d"⟩ defaultLicenseText
  rw [hHeader] at hTop
  rcases List.prefix_or_prefix_of_prefix hTop hTop' with hFirst | hFirst
  · exact absurd hFirst (by decide)
  · exact absurd hFirst (by decide)

end Config

end LicenseAudit
