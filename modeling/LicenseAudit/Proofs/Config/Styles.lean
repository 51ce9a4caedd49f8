import LicenseAudit.Proofs.Config.Marker
import LicenseAudit.Proofs.Text.Lowercase
import LicenseAudit.Proofs.Toml.Keys
import Mathlib.Data.List.Induction
import Mathlib.Data.List.Nodup

/-!
# Comment styles of a configuration

From the two style tables of a draft, which are maps, to those of the configuration in force, whose
keys are in lower case, and on to the overrides of a registry.

* `Draft.Keyed` — no style table has a key twice;
* `StyleTable.InLowerCase` — a map under lower-case keys;
* `StyleTable.Coherent` — keys that become the same in lower case agree on the style.

## Results

* `Draft.keyed_of_parse` — the style tables of a draft that is written down are maps.
* `StyleTable.inLowerCase_lowered` — those of a configuration in force are maps in lower case.
* `StyleTable.lowered_perm`, `StyleTable.coherent_of_lowered_perm` — the order of a table does not
  matter for the one in force exactly when the table is coherent.
* `Registry.ofConfig_extensionStyles`, `Registry.ofConfig_fileNameStyles` — the overrides of the
  registry of a configuration.
-/

namespace LicenseAudit

open Text

-- ---------------------------------------------------------------------------
-- The tables as written
-- ---------------------------------------------------------------------------

namespace Toml

/-- Reading the values of a table leaves its keys as they are. -/
theorem nodup_of_asMap {α : Type} {readValue : Value → Except TomlError α} {v : Value}
    {t : List (String × α)} (hKeyed : v.Keyed) (h : v.asMap readValue = .ok t) :
    (t.map Prod.fst).Nodup := by
  cases hKeyed with
  | scalar hScalar =>
    cases v with
    | array items => cases hScalar
    | table entries => cases hScalar
    | _ => cases h
  | array => cases h
  | @table entries hKeys hValues =>
    suffices hSame : t.map Prod.fst = entries.map Prod.fst by rwa [hSame]
    clear hKeys hValues
    simp only [Value.asMap] at h
    induction entries generalizing t with
    | nil =>
      cases h
      rfl
    | cons e rest ih =>
      rw [List.mapM_cons] at h
      obtain ⟨first, hFirst, hMore⟩ := bind_eq_ok_iff.mp h
      obtain ⟨a, -, hPair⟩ := bind_eq_ok_iff.mp hFirst
      obtain ⟨others, hOthers, hRest⟩ := bind_eq_ok_iff.mp hMore
      cases hPair
      cases hRest
      rw [List.map_cons, List.map_cons, ih hOthers]

theorem nodup_of_withDefault {α : Type} {readValue : Value → Except TomlError α}
    {entries : List (String × Value)} {name : String} {t : List (String × α)}
    (hKeyed : (Value.table entries).Keyed)
    (h : withDefault (Value.asMap readValue) [] entries name = .ok t) :
    (t.map Prod.fst).Nodup := by
  obtain ⟨found?, hFound, hRest⟩ := bind_eq_ok_iff.mp h
  cases hRest
  unfold optional at hFound
  split at hFound
  · cases hFound
    exact List.nodup_nil
  · rename_i v hLookup
    obtain ⟨before, after, rfl, -⟩ := List.lookup_eq_some_iff.mp hLookup
    cases hMap : Value.asMap readValue v with
    | error e =>
      rw [hMap] at hFound
      cases hFound
    | ok t =>
      rw [hMap] at hFound
      cases hFound
      cases hKeyed with
      | scalar hScalar => cases hScalar
      | table _ hValues => exact nodup_of_asMap (hValues (name, v) (by simp)) hMap

end Toml

/-- No style table of the draft has a key twice. -/
structure Draft.Keyed (d : Draft) : Prop where
  extensionStyles : (d.extensionStyles.map Prod.fst).Nodup
  fileNameStyles  : (d.fileNameStyles.map Prod.fst).Nodup

/-- The style tables of a draft that is written down are maps. -/
theorem Draft.keyed_of_parse {text : String} {d : Draft} (h : parse text = .ok d) : d.Keyed := by
  obtain ⟨entries, hRead, hEntries⟩ := bind_eq_ok_iff.mp h
  have hKeyed := Toml.keyed_of_read hRead
  obtain ⟨top, hTop, hRest⟩ := bind_eq_ok_iff.mp hEntries
  obtain rfl : entries = top := by
    simp only [Toml.Value.asFields] at hTop
    split at hTop <;> cases hTop
    rfl
  obtain ⟨notice, -, hRest⟩ := bind_eq_ok_iff.mp hRest
  obtain ⟨exclude, -, hRest⟩ := bind_eq_ok_iff.mp hRest
  obtain ⟨jobs?, -, hRest⟩ := bind_eq_ok_iff.mp hRest
  obtain ⟨marker?, -, hRest⟩ := bind_eq_ok_iff.mp hRest
  obtain ⟨headerFile?, -, hRest⟩ := bind_eq_ok_iff.mp hRest
  obtain ⟨noticeFile?, -, hRest⟩ := bind_eq_ok_iff.mp hRest
  obtain ⟨startYear?, -, hRest⟩ := bind_eq_ok_iff.mp hRest
  obtain ⟨directories, -, hRest⟩ := bind_eq_ok_iff.mp hRest
  obtain ⟨files, -, hRest⟩ := bind_eq_ok_iff.mp hRest
  obtain ⟨extensions, hExtensions, hRest⟩ := bind_eq_ok_iff.mp hRest
  obtain ⟨names, hNames, hRest⟩ := bind_eq_ok_iff.mp hRest
  cases hRest
  exact ⟨Toml.nodup_of_withDefault hKeyed hExtensions, Toml.nodup_of_withDefault hKeyed hNames⟩

-- ---------------------------------------------------------------------------
-- Lowercasing the keys
-- ---------------------------------------------------------------------------

namespace StyleTable

variable {t t' : StyleTable}

/-- Keys that are the same in lower case have the same style. -/
def Coherent (t : StyleTable) : Prop :=
  ∀ e ∈ t, ∀ e' ∈ t, lowercaseString e.1 = lowercaseString e'.1 → e.2 = e'.2

instance (t : StyleTable) : Decidable t.Coherent :=
  inferInstanceAs (Decidable (∀ e ∈ t, ∀ e' ∈ t,
    lowercaseString e.1 = lowercaseString e'.1 → e.2 = e'.2))

/-- The keys are in lower case, and no key occurs twice. -/
structure InLowerCase (t : StyleTable) : Prop where
  keys  : (t.map Prod.fst).Nodup
  lower : ∀ e ∈ t, lowercaseString e.1 = e.1

theorem InLowerCase.perm (h : t.InLowerCase) (hPerm : t.Perm t') : t'.InLowerCase where
  keys := (hPerm.map Prod.fst).nodup_iff.mp h.keys
  lower e hMem := h.lower e (hPerm.mem_iff.mpr hMem)

/-- The entry that comes last is set last. -/
theorem lowered_concat (t : StyleTable) (e : String × CommentStyle) :
    lowered (t ++ [e]) = (lowered t).set (lowercaseString e.1) e.2 := by
  rw [lowered, List.foldl_append]
  rfl

theorem mem_set {key : String} {style : CommentStyle} {e : String × CommentStyle} :
    e ∈ t.set key style ↔ e ∈ t ∧ e.1 ≠ key ∨ e = (key, style) := by
  simp [set]

theorem InLowerCase.set (h : t.InLowerCase) (key : String) (style : CommentStyle) :
    (t.set (lowercaseString key) style).InLowerCase where
  keys := by
    rw [StyleTable.set, List.map_append, List.nodup_append]
    refine ⟨h.keys.sublist (List.filter_sublist.map _), List.nodup_singleton _, ?_⟩
    intro k hMem k' hMem'
    obtain ⟨e, hEntry, rfl⟩ := List.mem_map.mp hMem
    rw [List.mem_singleton.mp hMem']
    simpa using (List.mem_filter.mp hEntry).2
  lower e hMem := by
    rcases mem_set.mp hMem with ⟨hOld, -⟩ | rfl
    · exact h.lower e hOld
    · exact lowercaseString_lowercaseString key

theorem inLowerCase_lowered (t : StyleTable) : (lowered t).InLowerCase := by
  induction t using List.reverseRecOn with
  | nil => exact ⟨List.nodup_nil, fun e hMem => absurd hMem List.not_mem_nil⟩
  | append_singleton t e ih =>
    rw [lowered_concat]
    exact ih.set e.1 e.2

/-- What the table holds comes from an entry under its key in lower case. -/
theorem exists_of_mem_lowered {e : String × CommentStyle} (h : e ∈ lowered t) :
    ∃ e' ∈ t, e = (lowercaseString e'.1, e'.2) := by
  induction t using List.reverseRecOn with
  | nil => exact absurd h List.not_mem_nil
  | append_singleton t last ih =>
    rw [lowered_concat, mem_set] at h
    rcases h with ⟨hOld, -⟩ | rfl
    · obtain ⟨e', hMem, hEntry⟩ := ih hOld
      exact ⟨e', List.mem_append_left _ hMem, hEntry⟩
    · exact ⟨last, by simp, rfl⟩

/-- No key is lost. -/
theorem exists_mem_lowered {e : String × CommentStyle} (h : e ∈ t) :
    ∃ style, (lowercaseString e.1, style) ∈ lowered t := by
  induction t using List.reverseRecOn with
  | nil => exact absurd h List.not_mem_nil
  | append_singleton t last ih =>
    rw [lowered_concat]
    by_cases hKey : lowercaseString e.1 = lowercaseString last.1
    · exact ⟨last.2, mem_set.mpr (Or.inr (Prod.ext hKey rfl))⟩
    · rcases List.mem_append.mp h with hOld | hLast
      · obtain ⟨style, hStyle⟩ := ih hOld
        exact ⟨style, mem_set.mpr (Or.inl ⟨hStyle, hKey⟩)⟩
      · exact absurd (by rw [List.mem_singleton.mp hLast]) hKey

/-- Without conflicts the table holds every entry under its key in lower case. -/
theorem mem_lowered (h : t.Coherent) {e : String × CommentStyle} :
    e ∈ lowered t ↔ ∃ e' ∈ t, e = (lowercaseString e'.1, e'.2) := by
  refine ⟨exists_of_mem_lowered, ?_⟩
  rintro ⟨e', hMem, rfl⟩
  obtain ⟨style, hStyle⟩ := exists_mem_lowered hMem
  obtain ⟨e'', hMem'', hEntry⟩ := exists_of_mem_lowered hStyle
  obtain ⟨hKey, rfl⟩ := Prod.mk.inj hEntry
  rwa [h e' hMem e'' hMem'' hKey]

/-- Without conflicts the order does not matter. -/
theorem lowered_perm (h : t.Coherent) (hPerm : t.Perm t') : (lowered t).Perm (lowered t') := by
  have h' : t'.Coherent := fun e hMem e' hMem' =>
    h e (hPerm.mem_iff.mpr hMem) e' (hPerm.mem_iff.mpr hMem')
  rw [List.perm_ext_iff_of_nodup (inLowerCase_lowered t).keys.of_map
    (inLowerCase_lowered t').keys.of_map]
  intro e
  simp only [mem_lowered h, mem_lowered h', hPerm.mem_iff]

/-- An entry that comes last stays. -/
theorem exists_perm_mem_lowered {e : String × CommentStyle} (h : e ∈ t) :
    ∃ t', t.Perm t' ∧ (lowercaseString e.1, e.2) ∈ lowered t' := by
  have hLast : t.Perm (t.erase e ++ [e]) :=
    (List.perm_cons_erase h).trans (List.perm_append_singleton e _).symm
  refine ⟨_, hLast, ?_⟩
  rw [lowered_concat, mem_set]
  exact Or.inr rfl

/-- If the order does not matter, then all entries stay. -/
theorem coherent_of_lowered_perm (h : ∀ t', t.Perm t' → (lowered t).Perm (lowered t')) :
    t.Coherent := by
  have hStays : ∀ e ∈ t, (lowercaseString e.1, e.2) ∈ lowered t := by
    intro e hMem
    obtain ⟨t', hPerm, hLast⟩ := exists_perm_mem_lowered hMem
    rwa [(h _ hPerm).mem_iff]
  intro e hMem e' hMem' hKey
  have hSame := List.inj_on_of_nodup_map (inLowerCase_lowered t).keys (hStays e hMem)
    (hStays e' hMem') hKey
  exact (Prod.mk.inj hSame).2

end StyleTable

-- ---------------------------------------------------------------------------
-- Registries
-- ---------------------------------------------------------------------------

namespace StyleTable

variable {t t' : StyleTable}

theorem lookup_eq_some_iff (hKeys : (t.map Prod.fst).Nodup) {key : String}
    {style : CommentStyle} : t.lookup key = some style ↔ (key, style) ∈ t := by
  constructor
  · intro hFound
    obtain ⟨before, after, rfl, -⟩ := List.lookup_eq_some_iff.mp hFound
    simp
  · intro hMem
    obtain ⟨before, after, rfl⟩ := List.append_of_mem hMem
    refine List.lookup_eq_some_iff.mpr ⟨before, after, rfl, fun e hBefore => ?_⟩
    rw [List.map_append, List.map_cons, List.nodup_append] at hKeys
    have hOther := hKeys.2.2 e.1 (List.mem_map_of_mem hBefore) key List.mem_cons_self
    simpa using Ne.symm hOther

/-- In a map the order does not matter for what stands under a key. -/
theorem lookup_perm (hKeys : (t.map Prod.fst).Nodup) (hPerm : t.Perm t') (key : String) :
    t.lookup key = t'.lookup key := by
  have hKeys' := (hPerm.map Prod.fst).nodup_iff.mp hKeys
  refine Option.ext fun style => ?_
  rw [lookup_eq_some_iff hKeys, lookup_eq_some_iff hKeys', hPerm.mem_iff]

end StyleTable

/-- A comment begins with its top marker, if there is one. -/
theorem CommentStyle.prefix_render (style : CommentStyle) (text : String) :
    style.top.toList <+: (style.render text).toList := by
  rw [render, String.toList_ofList, commentLines, outerLine]
  split
  · rename_i hEmpty
    rw [String.isEmpty_iff.mp hEmpty]
    exact List.nil_prefix
  · rw [List.append_assoc, List.singleton_append, joinLines]
    cases (lines text.toList).map style.commentLine ++ outerLine style.bottom with
    | nil => simp
    | cons next more =>
      rw [List.intercalate_cons_cons]
      exact (List.prefix_append _ _).trans (List.prefix_append _ _)

namespace Registry

variable {c : Config}

/-- Entering styles, one after the other, into one of the tables of a registry. Their keys are
already in lower case. -/
theorem foldl_enters (styles : Registry → StyleTable)
    {f : Registry → String × CommentStyle → Registry}
    (hEnters : ∀ r e, styles (f r e) = (lowercaseString e.1, e.2) :: styles r) {t : StyleTable}
    (hLower : ∀ e ∈ t, lowercaseString e.1 = e.1) (r : Registry) :
    styles (t.foldl f r) = t.reverse ++ styles r := by
  induction t generalizing r with
  | nil => rfl
  | cons e rest ih =>
    rw [List.foldl_cons, ih (fun e' hMem => hLower e' (List.mem_cons_of_mem e hMem)), hEnters,
      hLower e List.mem_cons_self, List.reverse_cons, List.append_assoc]
    rfl

/-- Entering styles into the other table. -/
theorem foldl_keeps (styles : Registry → StyleTable)
    {f : Registry → String × CommentStyle → Registry}
    (hKeeps : ∀ r e, styles (f r e) = styles r) (t : StyleTable) (r : Registry) :
    styles (t.foldl f r) = styles r := by
  induction t generalizing r with
  | nil => rfl
  | cons e rest ih => rw [List.foldl_cons, ih, hKeeps]

theorem ofConfig_extensionStyles (h : c.extensionStyles.InLowerCase) :
    (ofConfig (some c)).extensionStyles = c.extensionStyles.reverse := by
  rw [ofConfig, foldl_keeps extensionStyles (f := fun r e => r.withFileNameStyle e.1 e.2)
      fun _ _ => rfl,
    foldl_enters extensionStyles (f := fun r e => r.withExtensionStyle e.1 e.2) (fun _ _ => rfl)
      h.lower]
  cases c.headerText? <;> exact List.append_nil _

theorem ofConfig_fileNameStyles (h : c.fileNameStyles.InLowerCase) :
    (ofConfig (some c)).fileNameStyles = c.fileNameStyles.reverse := by
  rw [ofConfig, foldl_enters fileNameStyles (f := fun r e => r.withFileNameStyle e.1 e.2)
      (fun _ _ => rfl) h.lower,
    foldl_keeps fileNameStyles (f := fun r e => r.withExtensionStyle e.1 e.2) fun _ _ => rfl]
  cases c.headerText? <;> exact List.append_nil _

/-- The header of a file that takes one begins with the top marker of its style. -/
theorem exists_header_of_style? {r : Registry} {p : Path} {style : CommentStyle}
    (hTaken : isExcluded p = false) (hStyle : r.style? p = some style) :
    ∃ header, r.headerFor? p = some header ∧ style.top.toList <+: header.toList := by
  refine ⟨style.render r.licenseText, ?_, style.prefix_render _⟩
  rw [headerFor?, hTaken, hStyle]
  rfl

end Registry

end LicenseAudit
