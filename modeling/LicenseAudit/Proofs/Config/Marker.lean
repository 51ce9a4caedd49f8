import LicenseAudit.Config.Load
import LicenseAudit.Config.Settings
import LicenseAudit.Proofs.Header.Marker

/-!
# The marker of an accepted configuration

Loading a configuration checks that the license text holds the marker, so that a file with the
header in it counts as compliant. The check is made on the raw text, but the header is made of
its lines, and a marker that needs a line break or the white space at the end of the text is lost
on the way.

* `Config.licenseText` — the license text in force;
* `Config.Checked` — what loading has checked of the license text and the marker.

## Results

* `checked_of_load` — a configuration that loads has been checked.
* `load_carries_iff` — the headers of a configuration hold its marker, whatever the comment
  styles are, exactly when the marker stands in a line of the license text; for plain markers
  the check is enough.
* `load_multiline_marker` — a configuration that loads and whose header lacks the marker.
-/

namespace LicenseAudit

open Text

instance decidableEqExcept {ε α : Type} [DecidableEq ε] [DecidableEq α] :
    DecidableEq (Except ε α)
  | .ok a, .ok b => decidable_of_iff (a = b) (by rw [Except.ok.injEq])
  | .error e, .error e' => decidable_of_iff (e = e') (by rw [Except.error.injEq])
  | .ok _, .error _ => isFalse nofun
  | .error _, .ok _ => isFalse nofun

deriving instance DecidableEq for Draft, Config

-- ---------------------------------------------------------------------------
-- The license text in force
-- ---------------------------------------------------------------------------

/-- The license text in force. -/
def Config.licenseText (c : Config) : String := c.headerText?.getD defaultLicenseText

/-- Setting styles leaves the license text alone. -/
theorem Registry.foldl_licenseText {f : Registry → String × CommentStyle → Registry}
    (hKeeps : ∀ r e, (f r e).licenseText = r.licenseText) (t : StyleTable) (r : Registry) :
    (t.foldl f r).licenseText = r.licenseText := by
  induction t generalizing r with
  | nil => rfl
  | cons e rest ih => rw [List.foldl_cons, ih, hKeeps]

theorem Registry.ofConfig_licenseText (c : Config) :
    (ofConfig (some c)).licenseText = c.licenseText := by
  rw [ofConfig, foldl_licenseText (f := fun r e => r.withFileNameStyle e.1 e.2) fun _ _ => rfl,
    foldl_licenseText (f := fun r e => r.withExtensionStyle e.1 e.2) fun _ _ => rfl,
    Config.licenseText]
  cases c.headerText? <;> rfl

/-- The usual marker stands in the usual text. -/
theorem infix_default : defaultMarker.toList <:+: defaultLicenseText.toList := by
  have hLine : "    ".toList ++ defaultMarker.toList =
      "    http://www.apache.org/licenses/LICENSE-2.0".toList := by decide
  have hText : "    ".toList ++ defaultMarker.toList <:+: defaultLicenseText.toList := by
    rw [defaultLicenseText, String.toList_intercalate, hLine]
    refine infix_joinLines_of_mem (List.mem_map_of_mem ?_)
    simp
  exact (List.suffix_append _ _).isInfix.trans hText

-- ---------------------------------------------------------------------------
-- What loading checks
-- ---------------------------------------------------------------------------

/-- What loading has checked: the marker is not empty and stands in the raw license text, of
which the text in force lacks at most the white space at the end. -/
structure Config.Checked (c : Config) : Prop where
  marker : c.marker ≠ ""
  text   : ∃ raw : String, c.marker.toList <:+: raw.toList ∧
    (c.licenseText = raw ∨ c.licenseText.toList = trimEnd raw.toList)

/-- An accepted draft has no fault. -/
theorem Draft.fault?_of_accept {d : Draft} {c : Config} (h : d.accept = .ok c) :
    d.fault? = none ∧ c.marker? = d.marker? ∧ c.headerFile? = d.headerFile? ∧
      c.headerText? = none := by
  unfold accept at h
  split at h
  · cases h
  · rename_i hFault
    cases h
    exact ⟨hFault, rfl, rfl, rfl⟩

/-- The marker of a draft without faults is not empty, and without a license text of its own the
draft keeps to markers that stand in the built-in text. -/
theorem Draft.marker_of_fault? {d : Draft} {marker : String} (h : d.fault? = none)
    (hMarker : d.marker? = some marker) :
    marker ≠ "" ∧
      (d.headerFile? = none → containsText defaultLicenseText marker = true) := by
  have hFault : d.markerFault? = none := by
    simp only [fault?, Option.or_eq_none_iff, Option.map_eq_none_iff] at h
    exact h.1.2
  simp only [markerFault?, hMarker] at hFault
  split at hFault
  · cases hFault
  · rename_i hFilled
    refine ⟨by simpa using hFilled, fun hFile => ?_⟩
    rw [hFile] at hFault
    simpa using hFault

theorem Config.accepted_of_parse {text : String} {path : Path} {c : Config}
    (h : parse text path = .ok c) : ∃ d : Draft, d.accept = .ok c := by
  unfold parse at h
  split at h
  · cases h
  · exact ⟨_, h⟩

/-- The marker of an accepted draft is not empty. -/
theorem Draft.marker_of_accept {d : Draft} {c : Config} (h : d.accept = .ok c) :
    c.marker ≠ "" := by
  obtain ⟨hFault, hMarker, -, -⟩ := fault?_of_accept h
  rw [Config.marker, hMarker]
  cases hCase : d.marker? with
  | none => exact (by decide : defaultMarker ≠ "")
  | some marker => exact (marker_of_fault? hFault hCase).1

/-- What loads is an accepted draft, with the license text of its header file if it names one. -/
theorem Config.accepted_of_load {path : Path} {fs : FileSystem} {c : Config}
    (hLoad : ((load path).run fs).1 = .ok c) :
    ∃ (d : Draft) (c₀ : Config), d.accept = .ok c₀ ∧
      (c₀.headerFile? = none ∧ c = c₀ ∨ ∃ raw, c₀.withHeaderText raw = .ok c) := by
  rw [load, Program.run_bind] at hLoad
  generalize (Program.readText path).run fs = x at hLoad
  obtain ⟨_ | text, fs₁⟩ := x
  · cases hLoad
  cases hParse : parse text path with
  | error e =>
    simp only [hParse] at hLoad
    cases hLoad
  | ok c₀ =>
    obtain ⟨d, hAccept⟩ := accepted_of_parse hParse
    refine ⟨d, c₀, hAccept, ?_⟩
    simp only [hParse, loadHeader] at hLoad
    cases hFile : c₀.headerFile? with
    | none =>
      rw [hFile] at hLoad
      cases hLoad
      exact Or.inl ⟨rfl, rfl⟩
    | some headerFile =>
      simp only [hFile, Program.run_bind] at hLoad
      generalize (Program.readText (headerPath path headerFile)).run fs₁ = y at hLoad
      obtain ⟨_ | raw, fs₂⟩ := y
      · cases hLoad
      · exact Or.inr ⟨raw, hLoad⟩

/-- A configuration that loads has been checked. -/
theorem Config.checked_of_load {path : Path} {fs : FileSystem} {c : Config}
    (hLoad : ((load path).run fs).1 = .ok c) : c.Checked := by
  obtain ⟨d, c₀, hAccept, hHeader⟩ := accepted_of_load hLoad
  obtain ⟨hFault, hMarker, hFile, hText⟩ := Draft.fault?_of_accept hAccept
  have hSome := Draft.marker_of_accept hAccept
  rcases hHeader with ⟨hNone, rfl⟩ | ⟨raw, hRaw⟩
  · refine ⟨hSome, defaultLicenseText, ?_, Or.inl ?_⟩
    · rw [Config.marker, hMarker]
      cases hCase : d.marker? with
      | none => exact infix_default
      | some marker =>
        have hIn := (Draft.marker_of_fault? hFault hCase).2 (hFile.symm.trans hNone)
        rwa [containsText, occursIn_iff] at hIn
    · rw [Config.licenseText, hText]
      rfl
  · unfold withHeaderText at hRaw
    split at hRaw
    · rename_i hIn
      cases hRaw
      rw [containsText, occursIn_iff] at hIn
      exact ⟨hSome, raw, hIn, Or.inr String.toList_ofList⟩
    · cases hRaw

/-- For plain markers the check is enough. -/
theorem Config.Checked.standsInLine {c : Config} (h : c.Checked)
    (hPlain : Plain c.marker.toList) : StandsInLine c.marker.toList c.licenseText.toList := by
  obtain ⟨raw, hIn, hText⟩ := h.text
  refine standsInLine_of_plain hPlain ?_
  rcases hText with hRaw | hTrimmed
  · rw [hRaw]
    exact hIn
  · rw [hTrimmed]
    exact infix_trimEnd hPlain hIn

-- ---------------------------------------------------------------------------
-- Headers of a configuration
-- ---------------------------------------------------------------------------

/-- The configuration with other comment styles. -/
def Config.withStyles (c : Config) (extensionStyles fileNameStyles : StyleTable) : Config :=
  { c with extensionStyles, fileNameStyles }

/-- A style of an extension is the style of a file with it. -/
theorem Registry.headerFor?_extension (c : Config) (style : CommentStyle) :
    (ofConfig (some (c.withStyles [("go", style)] []))).supports ⟨"a.go"⟩ = true ∧
      (ofConfig (some (c.withStyles [("go", style)] []))).headerFor? ⟨"a.go"⟩ =
        some (style.render c.licenseText) := by
  have hStyle : (ofConfig (some (c.withStyles [("go", style)] []))).style? ⟨"a.go"⟩ =
      some style := by
    have hKey : lowercaseString "go" = Path.lowerExtension ⟨"a.go"⟩ := by decide
    have hFilled : (Path.lowerExtension ⟨"a.go"⟩).isEmpty = false := by decide
    have hNames : (ofConfig (some (c.withStyles [("go", style)] []))).fileNameStyles = [] := by
      cases hText : c.headerText? <;> simp [ofConfig, Config.withStyles, hText, withExtensionStyle,
        withLicenseText, builtin]
    have hStyles : (ofConfig (some (c.withStyles [("go", style)] []))).extensionStyles =
        [(lowercaseString "go", style)] := by
      cases hText : c.headerText? <;> simp [ofConfig, Config.withStyles, hText, withExtensionStyle,
        withLicenseText, builtin]
    rw [style?, hNames, hStyles, hKey]
    simp [hFilled]
  have hName : isExcluded ⟨"a.go"⟩ = false := by decide
  refine ⟨by simp [supports, hName, hStyle], ?_⟩
  rw [headerFor?, hName, hStyle, ofConfig_licenseText]
  rfl

/-- **When the headers hold the marker.** The headers of a configuration that loads hold the
marker exactly when it stands within one line of the license text: then those of the
configuration itself do, and only then do they under all comment styles that pass the
checks. The checks of loading ensure it for markers that have no line feed and do not end in
white space. -/
theorem load_carries_iff {path : Path} {fs : FileSystem} {c : Config}
    (hLoad : ((Config.load path).run fs).1 = .ok c) :
    (StandsInLine c.marker.toList c.licenseText.toList →
      (Registry.ofConfig (some c)).Carries c.marker) ∧
    ((∀ extensionStyles fileNameStyles : StyleTable,
        (∀ e ∈ extensionStyles, Draft.extensionFault? e = none) →
        (∀ e ∈ fileNameStyles, Draft.fileNameFault? e = none) →
        (Registry.ofConfig (some (c.withStyles extensionStyles fileNameStyles))).Carries
          c.marker) ↔
      StandsInLine c.marker.toList c.licenseText.toList) ∧
    (Plain c.marker.toList → StandsInLine c.marker.toList c.licenseText.toList) := by
  have hChecked := Config.checked_of_load hLoad
  have hCarries : ∀ c' : Config, c'.licenseText = c.licenseText →
      StandsInLine c.marker.toList c.licenseText.toList →
      (Registry.ofConfig (some c')).Carries c.marker := by
    intro c' hText hLine
    refine Registry.carries_of_standsInLine ?_
    rw [Registry.ofConfig_licenseText, hText]
    exact hLine
  refine ⟨hCarries c rfl, ⟨fun hAll => ?_, fun hLine _ _ _ _ => hCarries _ rfl hLine⟩,
    hChecked.standsInLine⟩
  -- one style that keeps the lines apart is enough
  obtain ⟨d, hVisible, hHead, hLast⟩ := exists_letter c.marker.toList
  have hMiddle : (CommentStyle.barrier c.marker d).middle.isEmpty = false := by
    rw [Bool.eq_false_iff, Ne, String.isEmpty_iff, ← String.toList_eq_nil_iff]
    intro hNil
    have hRun : List.replicate c.marker.toList.length d = [] := by
      simpa [CommentStyle.barrier, CommentStyle.line] using hNil
    rw [List.replicate_eq_nil_iff, List.length_eq_zero_iff] at hRun
    exact hChecked.marker (String.toList_eq_nil_iff.mp hRun)
  have hAccepted : ∀ e ∈ [("go", CommentStyle.barrier c.marker d)],
      Draft.extensionFault? e = none := by
    intro e hMem
    have hDot : "go".toList.head? ≠ some '.' := by decide
    rw [List.mem_singleton.mp hMem, Draft.extensionFault?, hMiddle, if_neg hDot]
    rfl
  obtain ⟨hSupports, hHeader⟩ :=
    Registry.headerFor?_extension c (CommentStyle.barrier c.marker d)
  obtain ⟨h, hFound, hIn⟩ := hAll [("go", .barrier c.marker d)] [] hAccepted
    (fun _ hMem => absurd hMem List.not_mem_nil) ⟨"a.go"⟩ hSupports
  rw [hHeader] at hFound
  cases hFound
  exact standsInLine_of_barrier hChecked.marker hVisible hHead hLast hIn

/-- A configuration with a text of its own that loads, and whose headers hold its marker. -/
theorem load_carries_own_text :
    ∃ c : Config, ((Config.load ⟨"/c"⟩).run
        ⟨[(["c"], .file (encode "marker = \"SPDX\"\nheader-file = \"/h\"\n".toList) 0o644),
          (["h"], .file (encode "SPDX: none\n".toList) 0o644)], []⟩).1 = .ok c ∧
      c.marker = "SPDX" ∧ (Registry.ofConfig (some c)).Carries c.marker := by
  have hLoad : ((Config.load ⟨"/c"⟩).run
      ⟨[(["c"], .file (encode "marker = \"SPDX\"\nheader-file = \"/h\"\n".toList) 0o644),
        (["h"], .file (encode "SPDX: none\n".toList) 0o644)], []⟩).1 =
      .ok ⟨⟨none, some "SPDX", some ⟨"/h"⟩, none, none, [], [], [], []⟩,
        some "SPDX: none"⟩ := by decide +kernel
  have hPlain : Plain "SPDX".toList := ⟨by decide, 'X', by decide, by decide⟩
  exact ⟨_, hLoad, rfl, (load_carries_iff hLoad).1 ((load_carries_iff hLoad).2.2 hPlain)⟩

/-- The marker that two lines of the text make up is accepted, and no header holds it. -/
theorem load_multiline_marker :
    ∃ c : Config, ((Config.load ⟨"/c"⟩).run
        ⟨[(["c"], .file (encode "marker = \"x\\ny\"\nheader-file = \"/h\"\n".toList) 0o644),
          (["h"], .file (encode "x\ny\n".toList) 0o644)], []⟩).1 = .ok c ∧
      c.marker = "x\ny" ∧
      (Registry.ofConfig (some c)).headerFor? ⟨"a.go"⟩ = some "/*\n * x\n * y\n */" ∧
      containsText "/*\n * x\n * y\n */" c.marker = false :=
  ⟨⟨⟨none, some "x\ny", some ⟨"/h"⟩, none, none, [], [], [], []⟩, some "x\ny"⟩,
    by decide +kernel, by decide +kernel, by decide +kernel, by decide +kernel⟩

end LicenseAudit
