import LicenseAudit.Proofs.Audit.Clean
import LicenseAudit.Proofs.Config.Marker
import LicenseAudit.Proofs.Notice.Document
import LicenseAudit.Proofs.Toml.Comment

/-!
# Configurations that are loaded again

A repair may put a header into the configuration file itself. The license text carries the marker
and stays as it is. The configuration stays the same if its header, where it receives one, is a
comment of its language.

* `Config.Admits` — a header that may stand in front of a configuration;
* `ConfigSource.file?` — the configuration file that a run loads.

## Results

* `load_mends` — after a repair a configuration is loaded again, if its file admits the header.
* `Config.startYear_of_load` — the first year of an accepted configuration has four digits.
-/

namespace LicenseAudit

open Text

-- ---------------------------------------------------------------------------
-- Loading one file
-- ---------------------------------------------------------------------------

namespace Config

variable {fs fs' : FileSystem} {path : Path} {c c₀ : Config}

theorem loadHeader_eq_ok_iff : ((c₀.loadHeader path).run fs).1 = .ok c ↔
    c₀.headerFile? = none ∧ c₀ = c ∨ ∃ file raw, c₀.headerFile? = some file ∧
      fs.read (headerPath path file) = .ok (encode raw.toList) ∧ c₀.withHeaderText raw = .ok c := by
  unfold loadHeader
  cases hFile : c₀.headerFile? with
  | none => simp
  | some file =>
    refine (Program.run_readText_bind_eq_ok_iff ?_).trans ?_
    · exact fun cause => ⟨_, rfl⟩
    · simp

/-- What the loading of a configuration reads and checks. -/
theorem load_eq_ok_iff : ((load path).run fs).1 = .ok c ↔
    ∃ text c₀, fs.read path = .ok (encode text.toList) ∧ parse text path = .ok c₀ ∧
      ((c₀.loadHeader path).run fs).1 = .ok c := by
  unfold load
  refine (Program.run_readText_bind_eq_ok_iff ?_).trans (exists_congr fun text => ?_)
  · exact fun cause => ⟨_, rfl⟩
  · simp only
    cases parse text path with
    | error cause => simp
    | ok c₀ => simp

/-- The loading of a configuration changes nothing. -/
theorem load_readOnly (path : Path) : (load path).ReadOnly := by
  refine (Program.readText_readOnly path).bind fun reply => ?_
  cases reply with
  | error cause => exact Program.only_pure _
  | ok text =>
    simp only
    cases parse text path with
    | error cause => exact Program.only_pure _
    | ok c =>
      simp only [loadHeader]
      cases c.headerFile? with
      | none => exact Program.only_pure _
      | some file =>
        refine (Program.readText_readOnly _).bind fun reply => ?_
        cases reply with
        | error cause => exact Program.only_pure _
        | ok raw => exact Program.only_pure _

/-- The first year of an accepted draft has four digits. -/
theorem startYear_of_accept {d : Draft} (h : d.accept = .ok c) :
    isFourDigitYear (c.startYear?.getD defaultStartYear) = true := by
  unfold Draft.accept at h
  split at h
  · cases h
  · rename_i hFault
    cases h
    have hYear : d.startYearFault? = none := by
      simp only [Draft.fault?, Option.or_eq_none_iff, Option.map_eq_none_iff] at hFault
      exact hFault.2
    show isFourDigitYear (d.startYear?.getD defaultStartYear) = true
    unfold Draft.startYearFault? at hYear
    split at hYear
    · rename_i hNone
      rw [hNone]
      rfl
    · rename_i year hSome
      rw [hSome]
      split at hYear
      · assumption
      · cases hYear

/-- A license text changes nothing but itself, and it holds the marker. -/
theorem withHeaderText_eq_ok {raw : String} (h : c₀.withHeaderText raw = .ok c) :
    containsText raw c.marker = true ∧ c.startYear? = c₀.startYear? := by
  unfold withHeaderText at h
  split at h
  · rename_i hMarker
    cases h
    exact ⟨hMarker, rfl⟩
  · cases h

/-- The first year of a configuration that loads has four digits. -/
theorem startYear_of_load (h : ((load path).run fs).1 = .ok c) :
    isFourDigitYear (c.startYear?.getD defaultStartYear) = true := by
  obtain ⟨d, c₀, hAccept, hHeader⟩ := accepted_of_load h
  have hYear := startYear_of_accept hAccept
  rcases hHeader with ⟨-, rfl⟩ | ⟨raw, hRaw⟩
  · exact hYear
  · rwa [(withHeaderText_eq_ok hRaw).2]

-- ---------------------------------------------------------------------------
-- Loading it again
-- ---------------------------------------------------------------------------

/-- The header may stand in front of a configuration file with the content. -/
def Admits (content : Bytes) (header : String) : Prop :=
  Toml.isComment header.toList = true ∧ ¬ Declaration.byteOrderMark <+: content

/-- A configuration file that admits a header reads the same with the header in it. -/
theorem parse_insertHeader {text header : String} (hParse : parse text path = .ok c)
    (hAdmits : Admits (encode text.toList) header) :
    ∃ text' : String, insertHeader (encode text.toList) (encode header.toList) =
      encode text'.toList ∧ parse text' path = .ok c := by
  obtain ⟨hComment, hMark⟩ := hAdmits
  have hRead : ∃ entries, Toml.read text = .ok entries := by
    unfold parse Draft.parse at hParse
    cases hRead : Toml.read text with
    | error cause =>
      rw [hRead] at hParse
      cases hParse
    | ok entries => exact ⟨entries, rfl⟩
  obtain ⟨entries, hRead⟩ := hRead
  have hSplit : Declaration.split? (encode text.toList) = none := by
    rw [← String.ofList_toList (s := text)] at hRead
    exact Toml.split?_eq_none_of_read hRead hMark
  have hHead : text.toList.head? ≠ some '\uFEFF' := by
    intro hHead
    cases hText : text.toList with
    | nil =>
      rw [hText] at hHead
      cases hHead
    | cons mark rest =>
      rw [hText] at hHead hMark
      obtain rfl : mark = '\uFEFF' := Option.some.inj hHead
      exact hMark ⟨encode rest, (encode_cons _ rest).symm⟩
  refine ⟨String.ofList (header.toList ++ '\n' :: '\n' :: text.toList), ?_, ?_⟩
  · rw [String.toList_ofList, insertHeader_front hSplit]
  · have hSame := Toml.read_comment hComment hHead
    rw [String.ofList_toList] at hSame
    unfold parse Draft.parse at hParse ⊢
    rwa [hSame]

variable {e : Engine} {files : List Path} {o : FixAllOutcome}

/-- **Configurations are loaded again.** After a repair that looks for the marker of a configuration
the configuration is loaded as before, if its file admits the header where it receives one. -/
theorem load_mends (h : e.Mends (fun _ => none) files o fs fs') (hMarker : e.marker = c.marker)
    (hLoad : ((load path).run fs).1 = .ok c)
    (hAdmits : ∀ p ∈ o.fixed, fs.EndsAt path p → ∀ header, e.headers.headerFor? p = some header →
      ∀ content, fs.read path = .ok content → Admits content header) :
    ((load path).run fs').1 = .ok c := by
  obtain ⟨text, c₀, hRead, hParse, hHeader⟩ := load_eq_ok_iff.mp hLoad
  -- the license text stays as it is
  have hHeader' : ((c₀.loadHeader path).run fs').1 = .ok c := by
    refine loadHeader_eq_ok_iff.mpr ?_
    rcases loadHeader_eq_ok_iff.mp hHeader with hNone | ⟨file, raw, hFile, hRaw, hText⟩
    · exact Or.inl hNone
    · refine Or.inr ⟨file, raw, hFile, h.read_of_marker hRaw ?_, hText⟩
      have hIn := (withHeaderText_eq_ok hText).1
      rw [containsText, occursIn_iff] at hIn
      rw [hMarker]
      exact infix_encode hIn
  rcases h.read_cases hRead with hSame | ⟨p, hMem, hEnds, -, header, hFor, hRead'⟩
  · exact load_eq_ok_iff.mpr ⟨text, c₀, hSame, hParse, hHeader'⟩
  · obtain ⟨text', hInserted, hParse'⟩ :=
      parse_insertHeader hParse (hAdmits p hMem hEnds header hFor _ hRead)
    rw [hInserted] at hRead'
    exact load_eq_ok_iff.mpr ⟨text', c₀, hRead', hParse', hHeader'⟩

end Config

-- ---------------------------------------------------------------------------
-- The file in force
-- ---------------------------------------------------------------------------

namespace ConfigSource

variable {s : ConfigSource} {fs fs' : FileSystem} {c? : Option Config}

/-- The configuration file that a run loads, if it loads one. -/
def file? (s : ConfigSource) (fs : FileSystem) : Option Path :=
  if s.disabled then none else (s.discover?.run fs).1

/-- The search for the file in force only asks what exists. -/
theorem only_discover? (s : ConfigSource) : s.discover?.Only fun c => ∃ p, c = .status p := by
  have hFirst : ∀ ps : List Path, (firstExisting? ps).Only fun c => ∃ p, c = .status p := by
    intro ps
    induction ps with
    | nil => exact Program.only_pure none
    | cons p rest ih =>
      refine Program.Only.bind ?_ fun found => ?_
      · exact Program.Only.bind (Program.only_ask ⟨p, rfl⟩) fun _ => Program.only_pure _
      · cases found with
        | true => exact Program.only_pure (some p)
        | false => exact ih
  unfold discover?
  cases s.explicit? with
  | none => exact hFirst _
  | some p => exact hFirst _

theorem discover?_snd (s : ConfigSource) (fs : FileSystem) : (s.discover?.run fs).2 = fs := by
  refine Program.run_snd_of_readOnly (s.only_discover?.mono ?_) fs
  rintro c ⟨p, rfl⟩
  rfl

theorem load_readOnly (s : ConfigSource) : s.load.ReadOnly := by
  have hDiscover : s.discover?.ReadOnly := by
    refine s.only_discover?.mono ?_
    rintro c ⟨p, rfl⟩
    rfl
  unfold load
  cases s.disabled with
  | true => exact Program.only_pure _
  | false =>
    refine hDiscover.bind fun found => ?_
    cases found with
    | none => cases s.explicit? <;> exact Program.only_pure _
    | some path =>
      refine (Config.load_readOnly path).bind fun loaded => ?_
      cases loaded <;> exact Program.only_pure _

/-- File systems that differ in file contents only have the same file in force. -/
theorem file?_congr (h : fs.Alike fs') (s : ConfigSource) : s.file? fs' = s.file? fs := by
  have hSame : (s.discover?.run fs').1 = (s.discover?.run fs).1 := by
    refine Program.run_fst_congr s.only_discover? ?_ ?_
    · rintro c ⟨p, rfl⟩
      rfl
    · rintro c ⟨p, rfl⟩
      exact h.status p
  rw [file?, file?, hSame]

/-- What the loading of the configuration in force gives. -/
theorem load_eq_ok_iff : (s.load.run fs).1 = .ok c? ↔
    (s.file? fs = none ∧ (s.disabled = true ∨ s.explicit? = none) ∧ c? = none) ∨
      ∃ path c, s.file? fs = some path ∧ ((Config.load path).run fs).1 = .ok c ∧ c? = some c := by
  have hStay := s.discover?_snd fs
  unfold load file?
  cases hDisabled : s.disabled with
  | true => simp [eq_comm]
  | false =>
    simp only [Bool.false_eq_true, if_false, Program.run_bind, hStay, false_or]
    cases hFound : (s.discover?.run fs).1 with
    | none =>
      cases s.explicit? with
      | none => simp [eq_comm]
      | some p => simp
    | some path =>
      simp only [Program.run_bind]
      cases hLoad : ((Config.load path).run fs).1 with
      | error cause => simp [hLoad]
      | ok c => simp [hLoad, eq_comm]

/-- The configuration in force is loaded again where its file is the same and is loaded again. -/
theorem load_again (hFile : s.file? fs' = s.file? fs)
    (hAgain : ∀ path c, s.file? fs = some path → c? = some c →
      ((Config.load path).run fs).1 = .ok c → ((Config.load path).run fs').1 = .ok c)
    (hLoad : (s.load.run fs).1 = .ok c?) : (s.load.run fs').1 = .ok c? := by
  refine load_eq_ok_iff.mpr ?_
  rcases load_eq_ok_iff.mp hLoad with ⟨hNone, hRest⟩ | ⟨path, c, hSome, hOne, hConfig⟩
  · exact Or.inl ⟨hFile.trans hNone, hRest⟩
  · exact Or.inr ⟨path, c, hFile.trans hSome, hAgain path c hSome hConfig hOne, hConfig⟩

end ConfigSource

end LicenseAudit
