import LicenseAudit.Proofs.Config.Styles

/-!
# The order of hash maps

The two style tables of a configuration are hash maps, and a hash map hands out its entries in an
order that nothing in the configuration settles. Three loops go over them. The checks stop at the
first fault that they meet. Lowercasing the keys keeps the later one of two entries whose keys
become the same. The registry only enters styles under keys that differ, and does not depend on
the order.

* `Draft.Rearranged`, `Config.Rearranged` — the same settings with the tables in some order;
* `Config.Parses` — the results of parsing a text, over all orders of the tables as written;
* `Config.Alike` — the same error, or configurations with the same maps;
* `Config.Builds` — the registries of a configuration, over all orders of its tables;
* `Config.OrderFree` — all orders agree on the result and on the header of every file;
* `Draft.Unambiguous` — at most one faulty entry in the first table that has any, and without
  any fault no two keys that differ by case only but have different styles.

## Results

* `Registry.headerFor?_rearranged` — the headers under a configuration in force do not depend on
  the order.
* `Config.orderFree_iff` — a text is parsed the same in all orders exactly when its draft is
  unambiguous.
* `Config.not_orderFree_two_styles` — two spellings of one extension with different styles.
-/

namespace LicenseAudit

-- ---------------------------------------------------------------------------
-- Orders
-- ---------------------------------------------------------------------------

/-- The draft with other comment styles. -/
def Draft.withStyles (d : Draft) (extensionStyles fileNameStyles : StyleTable) : Draft :=
  { d with extensionStyles, fileNameStyles }

/-- The draft with the entries of its tables in some order. -/
inductive Draft.Rearranged (d : Draft) : Draft → Prop
  | intro {extensionStyles fileNameStyles : StyleTable}
      (hExtensions : d.extensionStyles.Perm extensionStyles)
      (hFileNames : d.fileNameStyles.Perm fileNameStyles) :
      d.Rearranged (d.withStyles extensionStyles fileNameStyles)

/-- The configuration with the entries of its tables in some order. -/
inductive Config.Rearranged (c : Config) : Config → Prop
  | intro {extensionStyles fileNameStyles : StyleTable}
      (hExtensions : c.extensionStyles.Perm extensionStyles)
      (hFileNames : c.fileNameStyles.Perm fileNameStyles) :
      c.Rearranged (c.withStyles extensionStyles fileNameStyles)

theorem Draft.Rearranged.refl (d : Draft) : d.Rearranged d :=
  .intro (.refl d.extensionStyles) (.refl d.fileNameStyles)

namespace Config

variable {c c₁ c₂ : Config}

theorem Rearranged.refl (c : Config) : c.Rearranged c :=
  .intro (.refl c.extensionStyles) (.refl c.fileNameStyles)

theorem Rearranged.symm (h : c₁.Rearranged c₂) : c₂.Rearranged c₁ := by
  cases h with
  | intro hExtensions hFileNames => exact .intro hExtensions.symm hFileNames.symm

theorem Rearranged.extensionStyles (h : c₁.Rearranged c₂) :
    c₁.extensionStyles.Perm c₂.extensionStyles := by
  cases h with
  | intro hExtensions hFileNames => exact hExtensions

theorem Rearranged.fileNameStyles (h : c₁.Rearranged c₂) :
    c₁.fileNameStyles.Perm c₂.fileNameStyles := by
  cases h with
  | intro hExtensions hFileNames => exact hFileNames

theorem Rearranged.trans (h : c.Rearranged c₁) (h' : c₁.Rearranged c₂) : c.Rearranged c₂ := by
  cases h with
  | intro hExtensions hFileNames =>
    cases h' with
    | intro hExtensions' hFileNames' =>
      exact .intro (hExtensions.trans hExtensions') (hFileNames.trans hFileNames')

/-- The results that parsing a text may have, one for each order of the tables as written. -/
inductive Parses (text : String) (path : Path) : Except ConfigError Config → Prop
  | refused {e : TomlError} (hParse : Draft.parse text = .error e) :
      Parses text path (.error (.parse path e))
  | written {d d' : Draft} {result : Except ConfigError Config}
      (hParse : Draft.parse text = .ok d) (hOrder : d.Rearranged d')
      (hAccept : d'.accept = result) : Parses text path result

/-- The results say the same: they are the same error, or configurations that differ at most in
the order of their tables. -/
inductive Alike : Except ConfigError Config → Except ConfigError Config → Prop
  | error (e : ConfigError) : Alike (.error e) (.error e)
  | ok {c c' : Config} (h : c.Rearranged c') : Alike (.ok c) (.ok c')

/-- The registries of a configuration, one for each order of its tables. -/
def Builds (c : Config) (r : Registry) : Prop :=
  ∃ c', c.Rearranged c' ∧ r = Registry.ofConfig (some c')

/-- All orders agree on the result of parsing a text and on the header of every file. -/
structure OrderFree (text : String) (path : Path) : Prop where
  results : ∀ x x', Parses text path x → Parses text path x' → Alike x x'
  headers : ∀ c c' r r', Parses text path (.ok c) → Parses text path (.ok c') →
    c.Builds r → c'.Builds r' → ∀ p, r.headerFor? p = r'.headerFor? p

theorem Alike.symm {x y : Except ConfigError Config} (h : Alike x y) : Alike y x := by
  cases h with
  | error e => exact .error e
  | ok h => exact .ok h.symm

theorem Alike.trans {x y z : Except ConfigError Config} (h : Alike x y) (h' : Alike y z) :
    Alike x z := by
  cases h with
  | error e => exact h'
  | ok h =>
    cases h' with
    | ok h' => exact .ok (h.trans h')

end Config

-- ---------------------------------------------------------------------------
-- Faults
-- ---------------------------------------------------------------------------

namespace StyleTable

variable {fault? : String × CommentStyle → Option ConfigError} {t t' : StyleTable}

/-- At most one entry of the table is faulty. -/
def OneFault (fault? : String × CommentStyle → Option ConfigError) (t : StyleTable) : Prop :=
  ∀ e ∈ t, ∀ e' ∈ t, fault? e ≠ none → fault? e' ≠ none → e = e'

instance (t : StyleTable) : Decidable (t.OneFault fault?) :=
  inferInstanceAs (Decidable (∀ e ∈ t, ∀ e' ∈ t, fault? e ≠ none → fault? e' ≠ none → e = e'))

/-- With one faulty entry at most every order meets the same fault first. -/
theorem findSome?_perm (h : t.OneFault fault?) (hPerm : t.Perm t') :
    t'.findSome? fault? = t.findSome? fault? := by
  cases hFirst : t.findSome? fault? with
  | none =>
    rw [List.findSome?_eq_none_iff] at hFirst ⊢
    exact fun e hMem => hFirst e (hPerm.mem_iff.mpr hMem)
  | some x =>
    obtain ⟨e, hMem, hFault⟩ := List.exists_of_findSome?_eq_some hFirst
    cases hFirst' : t'.findSome? fault? with
    | none =>
      have hSound := List.findSome?_eq_none_iff.mp hFirst' e (hPerm.mem_iff.mp hMem)
      rw [hSound] at hFault
      cases hFault
    | some y =>
      obtain ⟨e', hMem', hFault'⟩ := List.exists_of_findSome?_eq_some hFirst'
      have hSame := h e hMem e' (hPerm.mem_iff.mpr hMem') (by simp [hFault]) (by simp [hFault'])
      rw [← hSame, hFault] at hFault'
      exact hFault'.symm

/-- Every faulty entry comes first in some order. If they all lead to the same fault, then there
is only one, since a fault names the key. -/
theorem oneFault_of_findSome? (first? : Option ConfigError) (hKeys : (t.map Prod.fst).Nodup)
    (hNames : ∀ e x, fault? e = some x → ∃ fault, x = .commentStyle e.1 fault)
    (h : ∀ t', t.Perm t' → ∀ x, t'.findSome? fault? = some x → first? = some x) :
    t.OneFault fault? := by
  have hFirst : ∀ e ∈ t, fault? e ≠ none → ∃ fault, first? = some (.commentStyle e.1 fault) := by
    intro e hMem hFaulty
    obtain ⟨x, hFault⟩ := Option.ne_none_iff_exists'.mp hFaulty
    obtain ⟨fault, rfl⟩ := hNames e x hFault
    refine ⟨fault, h (e :: t.erase e) (List.perm_cons_erase hMem) _ ?_⟩
    rw [List.findSome?_cons, hFault]
  intro e hMem e' hMem' hFaulty hFaulty'
  obtain ⟨fault, hHere⟩ := hFirst e hMem hFaulty
  obtain ⟨fault', hThere⟩ := hFirst e' hMem' hFaulty'
  have hKey : e.1 = e'.1 := by
    rw [hHere] at hThere
    simp only [Option.some.injEq, ConfigError.commentStyle.injEq] at hThere
    exact hThere.1
  exact List.inj_on_of_nodup_map hKeys hMem hMem' hKey

end StyleTable

namespace Draft

theorem extensionFault?_names (e : String × CommentStyle) (x : ConfigError)
    (h : extensionFault? e = some x) : ∃ fault, x = .commentStyle e.1 fault := by
  unfold extensionFault? at h
  split at h
  · cases h
    exact ⟨_, rfl⟩
  split at h
  · cases h
    exact ⟨_, rfl⟩
  · cases h

theorem fileNameFault?_names (e : String × CommentStyle) (x : ConfigError)
    (h : fileNameFault? e = some x) : ∃ fault, x = .commentStyle e.1 fault := by
  unfold fileNameFault? at h
  split at h
  · cases h
    exact ⟨_, rfl⟩
  · cases h

end Draft

-- ---------------------------------------------------------------------------
-- Configurations
-- ---------------------------------------------------------------------------

/-- The headers under a configuration in force do not depend on the order. -/
theorem Registry.headerFor?_rearranged {c c' : Config}
    (hExtensions : c.extensionStyles.InLowerCase) (hFileNames : c.fileNameStyles.InLowerCase)
    (h : c.Rearranged c') (p : Path) :
    (ofConfig (some c)).headerFor? p = (ofConfig (some c')).headerFor? p := by
  cases h with
  | @intro e n hExtensions' hFileNames' =>
    have hStyle : (ofConfig (some c)).style? p = (ofConfig (some (c.withStyles e n))).style? p := by
      have hTable : ∀ {t t' : StyleTable}, t.InLowerCase → t.Perm t' → ∀ key,
          t.reverse.lookup key = t'.reverse.lookup key := fun hLower hPerm key =>
        StyleTable.lookup_perm (hLower.perm (List.reverse_perm _).symm).keys
          ((List.reverse_perm _).trans (hPerm.trans (List.reverse_perm _).symm)) key
      rw [style?, style?, ofConfig_extensionStyles hExtensions, ofConfig_fileNameStyles hFileNames,
        ofConfig_extensionStyles (hExtensions.perm hExtensions'),
        ofConfig_fileNameStyles (hFileNames.perm hFileNames'),
        hTable hExtensions hExtensions', hTable hFileNames hFileNames']
      rfl
    rw [headerFor?, headerFor?, hStyle, ofConfig_licenseText, ofConfig_licenseText]
    rfl

namespace Draft

variable {d d' : Draft}

/-- The configuration that the draft stands for if it has no fault. -/
def inForce (d : Draft) : Config :=
  { d with
    extensionStyles := d.extensionStyles.lowered
    fileNameStyles := d.fileNameStyles.lowered
    headerText? := none }

/-- At most one entry is faulty in the first table that has faults. Without any fault, keys that
are the same in lower case have the same style. -/
structure Unambiguous (d : Draft) : Prop where
  extensionFaults : d.extensionStyles.OneFault extensionFault?
  fileNameFaults  : (∀ e ∈ d.extensionStyles, extensionFault? e = none) →
    d.fileNameStyles.OneFault fileNameFault?
  extensionKeys   : d.fault? = none → d.extensionStyles.Coherent
  fileNameKeys    : d.fault? = none → d.fileNameStyles.Coherent

theorem accept_of_fault? {x : ConfigError} (h : d.fault? = some x) : d.accept = .error x := by
  rw [accept, h]

theorem accept_of_fault?_eq_none (h : d.fault? = none) : d.accept = .ok d.inForce := by
  rw [accept, h]
  rfl

/-- The order of the tables reaches the first fault through the faults of their entries only. -/
theorem fault?_withStyles (d : Draft) (e n : StyleTable) :
    (d.withStyles e n).fault? = ((((e.findSome? extensionFault?).or
      (n.findSome? fileNameFault?)).or (d.jobsFault?.map .setting)).or
      (d.markerFault?.map .setting)).or (d.startYearFault?.map .setting) := rfl

/-- Whether there is a fault does not depend on the order. -/
theorem fault?_eq_none_iff_of_rearranged (hOrder : d.Rearranged d') :
    d'.fault? = none ↔ d.fault? = none := by
  have hTable : ∀ {t t' : StyleTable} {f : String × CommentStyle → Option ConfigError},
      t.Perm t' → (t'.findSome? f = none ↔ t.findSome? f = none) := by
    intro t t' f hPerm
    rw [List.findSome?_eq_none_iff, List.findSome?_eq_none_iff]
    exact forall_congr' fun e => by rw [hPerm.mem_iff]
  cases hOrder with
  | @intro e n hExtensions hFileNames =>
    have hHere := d.fault?_withStyles d.extensionStyles d.fileNameStyles
    rw [fault?_withStyles, show d.fault? = _ from hHere]
    simp only [Option.or_eq_none_iff, hTable hExtensions, hTable hFileNames]

/-- The first fault of an unambiguous draft does not depend on the order. -/
theorem Unambiguous.fault? (h : d.Unambiguous) (hOrder : d.Rearranged d') :
    d'.fault? = d.fault? := by
  cases hOrder with
  | @intro e n hExtensions hFileNames =>
    have hFirst := StyleTable.findSome?_perm h.extensionFaults hExtensions
    have hTables : (e.findSome? extensionFault?).or (n.findSome? fileNameFault?) =
        (d.extensionStyles.findSome? extensionFault?).or
          (d.fileNameStyles.findSome? fileNameFault?) := by
      rw [hFirst]
      cases hNone : d.extensionStyles.findSome? extensionFault? with
      | some x => rfl
      | none =>
        have hSound := List.findSome?_eq_none_iff.mp hNone
        rw [StyleTable.findSome?_perm (h.fileNameFaults hSound) hFileNames]
    rw [fault?_withStyles, hTables]
    rfl

/-- All orders of an unambiguous draft are accepted alike. -/
theorem Unambiguous.accept_alike (h : d.Unambiguous) (hOrder : d.Rearranged d') :
    Config.Alike d.accept d'.accept := by
  have hSame := h.fault? hOrder
  cases hFault : d.fault? with
  | some x =>
    rw [accept_of_fault? hFault, accept_of_fault? (hSame.trans hFault)]
    exact .error x
  | none =>
    rw [accept_of_fault?_eq_none hFault, accept_of_fault?_eq_none (hSame.trans hFault)]
    cases hOrder with
    | intro hExtensions hFileNames =>
      exact .ok (.intro (StyleTable.lowered_perm (h.extensionKeys hFault) hExtensions)
        (StyleTable.lowered_perm (h.fileNameKeys hFault) hFileNames))

/-- A draft whose orders are all accepted alike is unambiguous. -/
theorem unambiguous_of_accept_alike (hKeyed : d.Keyed)
    (h : ∀ d', d.Rearranged d' → Config.Alike d.accept d'.accept) : d.Unambiguous := by
  have hFault : ∀ d', d.Rearranged d' → ∀ x, d'.fault? = some x → d.fault? = some x := by
    intro d' hOrder x hFirst
    have hAlike := h d' hOrder
    rw [accept_of_fault? hFirst] at hAlike
    cases hHere : d.fault? with
    | none =>
      rw [accept_of_fault?_eq_none hHere] at hAlike
      cases hAlike
    | some y =>
      rw [accept_of_fault? hHere] at hAlike
      cases hAlike
      rfl
  have hLowered : ∀ d', d.Rearranged d' → d.fault? = none → d.inForce.Rearranged d'.inForce := by
    intro d' hOrder hSound
    have hAlike := h d' hOrder
    have hSound' : d'.fault? = none :=
      Option.eq_none_iff_forall_ne_some.mpr fun x hFirst => by
        rw [hFault d' hOrder x hFirst] at hSound
        cases hSound
    rw [accept_of_fault?_eq_none hSound, accept_of_fault?_eq_none hSound'] at hAlike
    cases hAlike with
    | ok hOrder' => exact hOrder'
  constructor
  · refine StyleTable.oneFault_of_findSome? d.fault? hKeyed.extensionStyles
      extensionFault?_names fun t hPerm x hFirst => ?_
    refine hFault _ (.intro hPerm (.refl _)) x ?_
    rw [fault?_withStyles, hFirst]
    rfl
  · intro hSound
    refine StyleTable.oneFault_of_findSome? d.fault? hKeyed.fileNameStyles
      fileNameFault?_names fun t hPerm x hFirst => ?_
    refine hFault _ (.intro (.refl _) hPerm) x ?_
    rw [fault?_withStyles, List.findSome?_eq_none_iff.mpr hSound, hFirst]
    rfl
  · exact fun hSound => StyleTable.coherent_of_lowered_perm fun t hPerm =>
      (hLowered _ (.intro hPerm (.refl _)) hSound).extensionStyles
  · exact fun hSound => StyleTable.coherent_of_lowered_perm fun t hPerm =>
      (hLowered _ (.intro (.refl _) hPerm) hSound).fileNameStyles

end Draft

namespace Config

variable {text : String} {path : Path}

/-- The tables of a configuration in force are in lower case. -/
theorem Parses.inLowerCase {c : Config} (h : Parses text path (.ok c)) :
    c.extensionStyles.InLowerCase ∧ c.fileNameStyles.InLowerCase := by
  cases h with
  | written hParse hOrder hAccept =>
    rw [Draft.accept_of_fault?_eq_none (Draft.fault?_of_accept hAccept).1] at hAccept
    cases hAccept
    exact ⟨StyleTable.inLowerCase_lowered _, StyleTable.inLowerCase_lowered _⟩

/-- If the orders agree on the result, then they agree on the headers. -/
theorem orderFree_of_results
    (h : ∀ x x', Parses text path x → Parses text path x' → Alike x x') :
    OrderFree text path := by
  refine ⟨h, fun c c' r r' hParses hParses' hBuilds hBuilds' p => ?_⟩
  obtain ⟨c₁, hOrder, rfl⟩ := hBuilds
  obtain ⟨c₁', hOrder', rfl⟩ := hBuilds'
  obtain ⟨hExtensions, hFileNames⟩ := hParses.inLowerCase
  cases h _ _ hParses hParses' with
  | ok hSame =>
    rw [← Registry.headerFor?_rearranged hExtensions hFileNames hOrder,
      ← Registry.headerFor?_rearranged hExtensions hFileNames (hSame.trans hOrder')]

/-- **When the order of hash maps does not matter.** All orders agree on what a configuration text
stands for, and on the headers that it gives, exactly when the text is no draft at all or its
draft is unambiguous. -/
theorem orderFree_iff (text : String) (path : Path) :
    OrderFree text path ↔ ∀ d, Draft.parse text = .ok d → d.Unambiguous := by
  constructor
  · intro h d hParse
    refine Draft.unambiguous_of_accept_alike (Draft.keyed_of_parse hParse) fun d' hOrder => ?_
    exact h.results _ _ (.written hParse (.refl d) rfl) (.written hParse hOrder rfl)
  · intro h
    refine orderFree_of_results fun x x' hParses hParses' => ?_
    cases hParses with
    | refused hParse =>
      cases hParses' with
      | refused hParse' =>
        cases hParse.symm.trans hParse'
        exact .error _
      | written hParse' => cases hParse.symm.trans hParse'
    | written hParse hOrder hAccept =>
      cases hParses' with
      | refused hParse' => cases hParse.symm.trans hParse'
      | written hParse' hOrder' hAccept' =>
        cases hParse.symm.trans hParse'
        rw [← hAccept, ← hAccept']
        exact ((h _ hParse).accept_alike hOrder).symm.trans ((h _ hParse).accept_alike hOrder')

/-- A document that sets the style of one extension under two spellings. -/
def twoSpellings (top : String) : String :=
  "[comment-styles.xyz]\ntop = \"/*\"\nmiddle = \" * \"\n[comment-styles.XYZ]\ntop = \"" ++ top ++
    "\"\nmiddle = \" * \"\n"

/-- The draft that sets nothing but the styles of extensions. -/
def onlyExtensions (t : StyleTable) : Draft :=
  ⟨none, none, none, none, none, [], [], t, []⟩

/-- Two spellings with the same style do no harm. -/
theorem orderFree_one_style : OrderFree (twoSpellings "/*") ⟨".asflint.toml"⟩ := by
  refine (orderFree_iff _ _).mpr fun d hParse => ?_
  have hDraft : Draft.parse (twoSpellings "/*") =
      .ok (onlyExtensions [("xyz", ⟨"/*", " * ", ""⟩), ("XYZ", ⟨"/*", " * ", ""⟩)]) := by
    decide +kernel
  rw [hDraft] at hParse
  cases hParse
  exact ⟨by decide +kernel, fun _ => by decide +kernel, fun _ => by decide +kernel,
    fun _ => by decide +kernel⟩

/-- Of two spellings with different styles the one that comes later decides about the header. -/
theorem not_orderFree_two_styles : ¬ OrderFree (twoSpellings "<!--") ⟨".asflint.toml"⟩ := by
  intro h
  let written : Config := ⟨onlyExtensions [("xyz", ⟨"<!--", " * ", ""⟩)], none⟩
  let swapped : Config := ⟨onlyExtensions [("xyz", ⟨"/*", " * ", ""⟩)], none⟩
  have hParse : Draft.parse (twoSpellings "<!--") =
      .ok (onlyExtensions [("xyz", ⟨"/*", " * ", ""⟩), ("XYZ", ⟨"<!--", " * ", ""⟩)]) := by
    decide +kernel
  have hWritten : Parses (twoSpellings "<!--") ⟨".asflint.toml"⟩ (.ok written) :=
    .written hParse (.refl _) (by decide +kernel)
  have hSwapped : Parses (twoSpellings "<!--") ⟨".asflint.toml"⟩ (.ok swapped) :=
    .written hParse (.intro (.swap _ _ _) (.refl _)) (by decide +kernel)
  have hSame := h.headers _ _ _ _ hWritten hSwapped ⟨_, .refl _, rfl⟩ ⟨_, .refl _, rfl⟩ ⟨"a.xyz"⟩
  -- the two headers begin with different markers
  have hTaken : Registry.isExcluded ⟨"a.xyz"⟩ = false := by decide +kernel
  have hStyle : (Registry.ofConfig (some written)).style? ⟨"a.xyz"⟩ =
      some ⟨"<!--", " * ", ""⟩ := by decide +kernel
  have hStyle' : (Registry.ofConfig (some swapped)).style? ⟨"a.xyz"⟩ =
      some ⟨"/*", " * ", ""⟩ := by decide +kernel
  obtain ⟨x, hHeader, hTop⟩ := Registry.exists_header_of_style? hTaken hStyle
  obtain ⟨y, hHeader', hTop'⟩ := Registry.exists_header_of_style? hTaken hStyle'
  rw [hHeader, hHeader', Option.some.injEq] at hSame
  rw [hSame] at hTop
  rcases List.prefix_or_prefix_of_prefix hTop hTop' with hFirst | hFirst
  · exact absurd hFirst (by decide +kernel)
  · exact absurd hFirst (by decide +kernel)

end Config

end LicenseAudit
