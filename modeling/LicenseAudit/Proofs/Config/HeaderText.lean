import LicenseAudit.Proofs.Config.Marker
import LicenseAudit.Proofs.Text.Trim

/-!
# The license text that is kept

A configuration takes a license text only if the text holds the marker, and keeps it without the
white space at its end. The marker is looked for before that is removed. A marker that ends in white
space can be cut off with it, and then the configuration keeps a text that does not hold its marker.

* `Config.KeepsMarker` — the marker stands in the license text that is kept.

## Results

* `withHeaderText_eq_ok_iff`, `withHeaderText_eq_error_iff` — which texts are taken, and what is
  kept.
* `keepsMarker_iff` — when the marker stands in what is kept.
* `withHeaderText_loses_marker` — a marker that is cut off.
-/

namespace LicenseAudit

-- ---------------------------------------------------------------------------
-- Taking a license text
-- ---------------------------------------------------------------------------

namespace Config

open Text

variable {c c' : Config} {raw : String}

/-- A text is taken if it holds the marker, and kept without the white space at its end. -/
theorem withHeaderText_eq_ok_iff : c.withHeaderText raw = .ok c' ↔
    c.marker.toList <:+: raw.toList ∧
      c' = { c with headerText? := some (String.ofList (trimEnd raw.toList)) } := by
  rw [withHeaderText, containsText, ← occursIn_iff]
  split <;> simp [*, eq_comm]

/-- A text is refused if it does not hold the marker. -/
theorem withHeaderText_eq_error_iff {e : ConfigError} : c.withHeaderText raw = .error e ↔
    ¬ c.marker.toList <:+: raw.toList ∧ e = .setting (.textWithoutMarker c.marker) := by
  rw [withHeaderText, containsText, ← occursIn_iff]
  split <;> simp [*, eq_comm]

/-- The marker in force stands in the license text that is kept. -/
def KeepsMarker (c : Config) : Prop :=
  ∃ kept, c.headerText? = some kept ∧ c.marker.toList <:+: kept.toList

theorem exists_last_of_parse {text : String} {path : Path} (h : parse text path = .ok c) :
    ∃ d, c.marker.toList.getLast? = some d := by
  obtain ⟨draft, hAccept⟩ := accepted_of_parse h
  have hSome : c.marker.toList ≠ [] :=
    fun hNil => Draft.marker_of_accept hAccept (String.toList_eq_nil_iff.mp hNil)
  exact ⟨_, List.getLast?_eq_some_getLast hSome⟩

/-- **What is kept of a license text.** Let a configuration have been read. A license text is
refused only if it does not hold the marker. A text that is taken changes nothing but the text that
is kept, which lacks at most the white space at its end. It holds the marker just if the marker
stands at a place in the text where it does not reach into that white space. So all texts that are
taken keep the marker just if the marker does not end in white space. -/
theorem keepsMarker_iff {text : String} {path : Path} (hParse : parse text path = .ok c) :
    (∀ raw e, c.withHeaderText raw = .error e → ¬ c.marker.toList <:+: raw.toList) ∧
    (∀ raw c', c.withHeaderText raw = .ok c' →
      (∃ kept, c' = { c with headerText? := some kept } ∧
        ∃ blanks, raw.toList = kept.toList ++ blanks ∧ ∀ d ∈ blanks, isBlank d = true) ∧
      (c'.KeepsMarker ↔ ∃ before behind, raw.toList = before ++ c.marker.toList ++ behind ∧
        (trimEnd c.marker.toList = c.marker.toList ∨ ∃ d ∈ behind, isBlank d = false))) ∧
    ((∀ raw c', c.withHeaderText raw = .ok c' → c'.KeepsMarker) ↔
      ∃ d, c.marker.toList.getLast? = some d ∧ isBlank d = false) := by
  have hKeeps : ∀ {raw c'}, c.withHeaderText raw = .ok c' →
      (c'.KeepsMarker ↔ c.marker.toList <:+: trimEnd raw.toList) := by
    intro raw c' hTaken
    obtain ⟨-, rfl⟩ := withHeaderText_eq_ok_iff.mp hTaken
    simp [KeepsMarker, marker]
  refine ⟨fun raw e hRefused => (withHeaderText_eq_error_iff.mp hRefused).1,
    fun raw c' hTaken => ⟨?_, ?_⟩, ?_⟩
  · obtain ⟨blanks, hText, hBlanks⟩ := trimEnd_append_blank raw.toList
    exact ⟨_, (withHeaderText_eq_ok_iff.mp hTaken).2, blanks,
      by rw [String.toList_ofList]; exact hText, hBlanks⟩
  · rw [hKeeps hTaken, infix_trimEnd_iff]
  · obtain ⟨d, hLast⟩ := exists_last_of_parse hParse
    constructor
    · -- the marker itself is a text that is taken
      intro hAll
      obtain ⟨c', hTaken⟩ : ∃ c', c.withHeaderText c.marker = .ok c' :=
        ⟨_, withHeaderText_eq_ok_iff.mpr ⟨List.infix_rfl, rfl⟩⟩
      obtain ⟨before, behind, hText, hSelf | ⟨e, hMem, -⟩⟩ :=
        infix_trimEnd_iff.mp ((hKeeps hTaken).mp (hAll c.marker c' hTaken))
      · exact ⟨d, hLast, trimEnd_eq_self_iff.mp hSelf d hLast⟩
      · -- nothing stands behind the marker in itself
        have hLength := congrArg List.length hText
        have hBehind := List.length_pos_of_mem hMem
        simp only [List.length_append] at hLength
        omega
    · rintro ⟨d, hLast, hVisible⟩ raw c' hTaken
      obtain ⟨before, behind, hText⟩ := (withHeaderText_eq_ok_iff.mp hTaken).1
      refine (hKeeps hTaken).mpr (infix_trimEnd_iff.mpr ⟨before, behind, hText.symm, Or.inl ?_⟩)
      refine trimEnd_eq_self_iff.mpr fun e hEnd => ?_
      rw [hLast] at hEnd
      exact Option.some.inj hEnd ▸ hVisible

/-- A marker of a word is kept, also where white space at the end is not. -/
theorem keepsMarker_word :
    ∃ c c' : Config, parse "marker = \"x\"\nheader-file = \"h.txt\"\n" ⟨"c.toml"⟩ = .ok c ∧
      c.withHeaderText "x \n" = .ok c' ∧ c'.KeepsMarker := by
  have hParse : parse "marker = \"x\"\nheader-file = \"h.txt\"\n" ⟨"c.toml"⟩ =
      .ok ⟨⟨none, some "x", some ⟨"h.txt"⟩, none, none, [], [], [], []⟩, none⟩ := by decide +kernel
  have hTaken : (Config.mk ⟨none, some "x", some ⟨"h.txt"⟩, none, none, [], [], [], []⟩
      none).withHeaderText "x \n" =
      .ok ⟨⟨none, some "x", some ⟨"h.txt"⟩, none, none, [], [], [], []⟩, some "x"⟩ := by
    decide +kernel
  exact ⟨_, _, hParse, hTaken,
    (keepsMarker_iff hParse).2.2.mpr ⟨'x', by decide, by decide⟩ _ _ hTaken⟩

/-- A marker that ends in a space is cut off: the text that is kept does not hold it. -/
theorem withHeaderText_loses_marker :
    ∃ c c' : Config, parse "marker = \"x \"\nheader-file = \"h.txt\"\n" ⟨"c.toml"⟩ = .ok c ∧
      c.withHeaderText "x " = .ok c' ∧ c'.marker = "x " ∧ c'.headerText? = some "x" ∧
      containsText "x" "x " = false :=
  ⟨⟨⟨none, some "x ", some ⟨"h.txt"⟩, none, none, [], [], [], []⟩, none⟩,
    ⟨⟨none, some "x ", some ⟨"h.txt"⟩, none, none, [], [], [], []⟩, some "x"⟩,
    by decide +kernel, by decide, by decide, rfl, by decide⟩

end Config

end LicenseAudit
