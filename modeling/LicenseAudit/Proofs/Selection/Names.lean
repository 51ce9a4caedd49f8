import LicenseAudit.Proofs.Pattern.Escape
import LicenseAudit.Proofs.Pattern.Literal
import LicenseAudit.Selection.NamePatterns

/-!
# Names that are left out

A path is left out by the name at its end. The name is compared with texts that may stand in it,
with one name as a whole, and with regular expressions that may match a part of it. Texts and
names can themselves be written as regular expressions, and with all of them written so the same
paths are left out.

* `HoldsOne`, `MeetsOne` — a text of a list stands in the name, or a regular expression of a list
  matches a part of it, both decidable;
* `Exclusions.compile` — the exclusions with the built-in ones written as regular expressions.

## Results

* `NamePatterns.matchesName_add_iff` — a name matches what it matched before, or an added pattern.
* `NamePatterns.parse_escaped` — escaped texts are the patterns that match where a text stands.
* `NamePatterns.mapM_parse_escaped_of_short` — few characters are never too large.
* `Exclusions.compile_tests` — the built-in exclusions may as well be written as regular
  expressions.
* `names_left_out` — which paths are left out, in terms of their last names.
-/

namespace LicenseAudit

/-- One of the texts stands in the name. -/
def HoldsOne (literals : List String) (name : String) : Prop :=
  ∃ l ∈ literals, l.toList <:+: name.toList

/-- One of the texts writes down the pattern. -/
def Pattern.WrittenIn (q : Pattern) (texts : List String) : Prop :=
  ∃ t ∈ texts, Pattern.parse t = .ok q

/-- One of the regular expressions matches some part of the name. -/
def MeetsOne (texts : List String) (name : String) : Prop :=
  ∃ q : Pattern, q.WrittenIn texts ∧ q.OccursIn name

instance (literals : List String) (name : String) : Decidable (HoldsOne literals name) :=
  inferInstanceAs (Decidable (∃ l ∈ literals, l.toList <:+: name.toList))

theorem meetsOne_iff {texts : List String} {name : String} :
    MeetsOne texts name ↔
      ∃ t ∈ texts, (Pattern.parse t).toOption.any (·.foundIn name.toList) = true := by
  simp only [MeetsOne, Pattern.WrittenIn, ← Pattern.foundIn_iff]
  constructor
  · rintro ⟨q, ⟨t, mem, read⟩, found⟩
    exact ⟨t, mem, by simpa [read, Except.toOption] using found⟩
  · rintro ⟨t, mem, found⟩
    cases read : Pattern.parse t with
    | error e => simp [read, Except.toOption] at found
    | ok q => exact ⟨q, ⟨t, mem, read⟩, by simpa [read, Except.toOption] using found⟩

instance (texts : List String) (name : String) : Decidable (MeetsOne texts name) :=
  decidable_of_iff _ meetsOne_iff.symm

-- ---------------------------------------------------------------------------
-- Patterns of names
-- ---------------------------------------------------------------------------

namespace NamePatterns

variable {ps base : NamePatterns} {texts : List String}

theorem matchesName_iff (ps : NamePatterns) (n : String) :
    ps.matchesName n = true ↔ ∃ q ∈ ps.patterns, q.OccursIn n := by
  simp only [matchesName, List.any_eq_true, Pattern.foundIn_iff]

/-- Only the last name of a path counts, and without one nothing matches. -/
theorem matchesPath_iff (ps : NamePatterns) (p : Path) :
    ps.matchesPath p = true ↔ ∃ n, p.fileName? = some n ∧ ps.matchesName n = true := by
  unfold matchesPath
  cases p.fileName? <;> simp

theorem matchesName_ofLiterals_iff (label : String) (literals : List String) (n : String) :
    (ofLiterals label literals).matchesName n = true ↔ HoldsOne literals n := by
  simp [matchesName_iff, ofLiterals, Pattern.occursIn_literal_iff, HoldsOne]

-- ---------------------------------------------------------------------------
-- Literals as regular expressions
-- ---------------------------------------------------------------------------

theorem add_eq (base : NamePatterns) (texts : List String) :
    base.add texts = texts.mapM Pattern.parse >>= fun more =>
      if Pattern.costLimit < Pattern.totalCost (base.patterns ++ more) then .error .tooLarge
      else .ok { base with patterns := base.patterns ++ more } := by
  have total (qs : List Pattern) (n : Nat) :
      qs.foldl (fun total p => total + p.cost) n = n + Pattern.totalCost qs := by
    induction qs generalizing n with
    | nil => rfl
    | cons q qs ih => rw [List.foldl_cons, ih, Pattern.totalCost, Nat.add_assoc]
  simp only [add, total, Nat.zero_add]
  rfl

/-- Texts that are read first count as patterns that were there before. -/
theorem add_append {qs : List Pattern} (read : texts.mapM Pattern.parse = .ok qs)
    (more : List String) :
    base.add (texts ++ more) = add { base with patterns := base.patterns ++ qs } more := by
  simp only [add_eq, List.mapM_append, read, ok_bind, bind_assoc, pure_bind, List.append_assoc]

/-- A name matches what it matched before, or one of the added patterns. -/
theorem matchesName_add_iff (h : base.add texts = .ok ps) (n : String) :
    ps.matchesName n = true ↔ base.matchesName n = true ∨ MeetsOne texts n := by
  rw [add_eq] at h
  obtain ⟨more, read, h⟩ := bind_eq_ok_iff.mp h
  split_ifs at h
  cases h
  simp only [matchesName_iff, List.mem_append, or_and_right, exists_or, MeetsOne,
    Pattern.WrittenIn, mem_of_mapM_eq_ok read]

/-- Escaped texts are read as literals until one is too large. -/
theorem mapM_parse_escaped (literals : List String) :
    (literals.map Pattern.escaped).mapM Pattern.parse =
      if ∃ l ∈ literals, Pattern.costLimit < (Pattern.literal l.toList).cost
      then .error .tooLarge else .ok (literals.map fun l => Pattern.literal l.toList) := by
  induction literals with
  | nil => simp; rfl
  | cons l rest ih =>
    rw [List.map_cons, List.mapM_cons, Pattern.parse_escaped, ih]
    by_cases first : Pattern.costLimit < (Pattern.literal l.toList).cost
    · simp [first, bind, Except.bind]
    · by_cases later : ∃ l ∈ rest, Pattern.costLimit < (Pattern.literal l.toList).cost
      · simp [first, later, bind, Except.bind]
      · simp [first, later, bind, Except.bind, pure, Except.pure]

/-- Escaped texts are the patterns that match where one of the texts stands, unless they are too
large together. -/
theorem parse_escaped (label : String) (literals : List String) :
    parse label (literals.map Pattern.escaped) =
      if Pattern.costLimit < Pattern.totalCost (ofLiterals label literals).patterns
      then .error .tooLarge else .ok (ofLiterals label literals) := by
  rw [parse, add_eq, mapM_parse_escaped]
  split
  · next large =>
    obtain ⟨l, mem, large⟩ := large
    have part : (Pattern.literal l.toList).cost ≤
        Pattern.totalCost (ofLiterals label literals).patterns :=
      Pattern.cost_le_totalCost (List.mem_map_of_mem (f := fun l => Pattern.literal l.toList) mem)
    rw [if_pos (Nat.lt_of_lt_of_le large part)]
    rfl
  · rfl

theorem totalCost_ofLiterals_le (label : String) (literals : List String) :
    Pattern.totalCost (ofLiterals label literals).patterns ≤
      (literals.flatMap String.toList).length * (4 * CharSet.stateSize) := by
  induction literals with
  | nil => exact Nat.zero_le _
  | cons l rest ih =>
    have first := Pattern.cost_literal_le l.toList
    simp only [ofLiterals, List.map_cons, Pattern.totalCost, List.flatMap_cons,
      List.length_append, Nat.add_mul] at ih ⊢
    omega

/-- Escaped texts of so few characters together are never too large. -/
theorem mapM_parse_escaped_of_short (literals : List String)
    (short : (literals.flatMap String.toList).length * (4 * CharSet.stateSize) ≤
      Pattern.costLimit) :
    (literals.map Pattern.escaped).mapM Pattern.parse =
      .ok (literals.map fun l => Pattern.literal l.toList) := by
  rw [mapM_parse_escaped, if_neg]
  rintro ⟨l, mem, large⟩
  have part : (Pattern.literal l.toList).cost ≤
      Pattern.totalCost (ofLiterals "" literals).patterns :=
    Pattern.cost_le_totalCost (List.mem_map_of_mem (f := fun l => Pattern.literal l.toList) mem)
  have whole := totalCost_ofLiterals_le "" literals
  omega

/-- Patterns of one size that match the same names can stand for each other. -/
theorem map_matchesName_add_congr {base' : NamePatterns}
    (sizes : Pattern.totalCost base.patterns = Pattern.totalCost base'.patterns)
    (same : base.matchesName = base'.matchesName) (texts : List String) :
    (base.add texts).map matchesName = (base'.add texts).map matchesName := by
  rw [add_eq, add_eq]
  cases texts.mapM Pattern.parse with
  | error e => rfl
  | ok more =>
    simp only [ok_bind, Pattern.totalCost_append, sizes]
    split
    · rfl
    · refine congrArg Except.ok (funext fun n => ?_)
      have before := congrFun same n
      simp only [matchesName, List.any_append] at before ⊢
      rw [before]

end NamePatterns

-- ---------------------------------------------------------------------------
-- The built-in exclusions as regular expressions
-- ---------------------------------------------------------------------------

theorem Pattern.occursIn_exactly_iff {name n : String} :
    (Pattern.exactly name).OccursIn n ↔ n = name :=
  anchored_literal_iff

namespace Exclusions

/-- The name of the directory of version control data as a regular expression. -/
def versionControlText : String := "^\\.git$"

/-- The exclusions with the built-in ones written as regular expressions before the further
ones. -/
def compile (directories files : List String) : Except PatternError Exclusions := do
  return ⟨← NamePatterns.parse "directory"
      (defaultDirectoryLiterals.map Pattern.escaped ++ versionControlText :: directories),
    ← NamePatterns.parse "file" (defaultFileLiterals.map Pattern.escaped ++ files)⟩

/-- The pattern that `versionControlText` is read as. -/
def versionControlPattern : Pattern :=
  .sequence (.place .textStart ::
    (versionControlName.toList.map Pattern.character ++ [.place .textEnd]))

theorem cost_versionControlPattern :
    versionControlPattern.cost = (Pattern.exactly versionControlName).cost := by
  simp only [versionControlPattern, Pattern.exactly, Pattern.cost_sequence, Pattern.cost,
    Pattern.totalCost, Pattern.totalCost_append, ← Pattern.sequence_character, Nat.add_zero]

theorem parse_versionControlText :
    Pattern.parse versionControlText = .ok versionControlPattern := by
  have small : ¬ Pattern.costLimit < versionControlPattern.cost := by
    have name : (Pattern.literal versionControlName.toList).cost ≤ 512 :=
      Pattern.cost_literal_le versionControlName.toList
    have anchored : versionControlPattern.cost =
        32 + ((Pattern.literal versionControlName.toList).cost + 32) := cost_versionControlPattern
    have limit : 576 ≤ Pattern.costLimit := by decide
    omega
  rw [Pattern.parse_anchored (l := versionControlName.toList) (by decide)]
  exact if_neg small

theorem occursIn_versionControlPattern_iff (n : String) :
    versionControlPattern.OccursIn n ↔ n = versionControlName := by
  rw [← Pattern.occursIn_exactly_iff]
  simp only [Pattern.OccursIn, versionControlPattern, Pattern.matches_sequence_anchored_iff,
    Pattern.sequence_character]
  rfl

theorem matchesName_builtinDirectories_iff (n : String) :
    builtinDirectories.matchesName n = true ↔
      HoldsOne defaultDirectoryLiterals n ∨ n = versionControlName := by
  rw [NamePatterns.matchesName_iff, ← Pattern.occursIn_exactly_iff,
    ← NamePatterns.matchesName_ofLiterals_iff "directory", NamePatterns.matchesName_iff]
  simp only [builtinDirectories, List.mem_append, List.mem_singleton, or_and_right, exists_or,
    exists_eq_left]

/-- The built-in directory names match the same names when they are read as texts. -/
theorem parse_directories (further : List String) :
    (NamePatterns.parse "directory"
        (defaultDirectoryLiterals.map Pattern.escaped ++ versionControlText :: further)).map
        NamePatterns.matchesName =
      (builtinDirectories.add further).map NamePatterns.matchesName := by
  have literals := NamePatterns.mapM_parse_escaped_of_short defaultDirectoryLiterals (by decide)
  have read : (defaultDirectoryLiterals.map Pattern.escaped ++ [versionControlText]).mapM
      Pattern.parse = .ok ((defaultDirectoryLiterals.map fun l => Pattern.literal l.toList) ++
        [versionControlPattern]) := by
    rw [List.mapM_append, literals, List.mapM_cons, parse_versionControlText]
    rfl
  rw [List.append_cons, NamePatterns.parse, NamePatterns.add_append read]
  refine NamePatterns.map_matchesName_add_congr ?_ (funext fun n => ?_) further
  · simp only [List.nil_append, builtinDirectories, NamePatterns.ofLiterals,
      Pattern.totalCost_append, Pattern.totalCost, cost_versionControlPattern]
  · rw [Bool.eq_iff_iff, NamePatterns.matchesName_iff, NamePatterns.matchesName_iff]
    simp [builtinDirectories, NamePatterns.ofLiterals, or_and_right, exists_or,
      occursIn_versionControlPattern_iff, Pattern.occursIn_exactly_iff]

theorem parse_files (further : List String) :
    NamePatterns.parse "file" (defaultFileLiterals.map Pattern.escaped ++ further) =
      builtinFiles.add further := by
  have literals := NamePatterns.mapM_parse_escaped_of_short defaultFileLiterals (by decide)
  rw [NamePatterns.parse, NamePatterns.add_append literals]
  rfl

/-- What the exclusions say of names. -/
def tests (x : Exclusions) : (String → Bool) × (String → Bool) :=
  (x.directories.matchesName, x.files.matchesName)

/-- The built-in exclusions may as well be written as regular expressions: the same lists of
further texts are refused, for the same reason, and the same names are left out. -/
theorem compile_tests (directories files : List String) :
    (compile directories files).map tests = (parse directories files).map tests := by
  have left := parse_directories directories
  -- The file names are read alike, and they are read only if the directory names were.
  simp only [compile, parse, parse_files]
  generalize NamePatterns.parse "directory" _ = compiled at left ⊢
  generalize builtinDirectories.add directories = parsed at left ⊢
  cases compiled <;> cases parsed <;> cases builtinFiles.add files <;>
    simp_all [Except.map, bind, Except.bind, pure, Except.pure, tests]

theorem of_parse {x : Exclusions} {directories files : List String}
    (h : parse directories files = .ok x) :
    builtinDirectories.add directories = .ok x.directories ∧
      builtinFiles.add files = .ok x.files := by
  rw [parse] at h
  obtain ⟨left, hLeft, h⟩ := bind_eq_ok_iff.mp h
  obtain ⟨right, hRight, h⟩ := bind_eq_ok_iff.mp h
  cases h
  exact ⟨hLeft, hRight⟩

/-- What the compiled exclusions say of names, the exclusions say too. -/
theorem exists_parse_of_compile {x : Exclusions} {directories files : List String}
    (h : compile directories files = .ok x) :
    ∃ x', parse directories files = .ok x' ∧ x'.tests = x.tests := by
  have same := compile_tests directories files
  rw [h] at same
  exact map_eq_ok_iff.mp same.symm

theorem tests_iff {x : Exclusions} {directories files : List String}
    (h : parse directories files = .ok x) (n : String) :
    (x.tests.1 n = true ↔
      HoldsOne defaultDirectoryLiterals n ∨ n = versionControlName ∨ MeetsOne directories n) ∧
    (x.tests.2 n = true ↔ HoldsOne defaultFileLiterals n ∨ MeetsOne files n) := by
  obtain ⟨left, right⟩ := of_parse h
  constructor
  · rw [tests, NamePatterns.matchesName_add_iff left, matchesName_builtinDirectories_iff,
      or_assoc]
  · rw [tests, NamePatterns.matchesName_add_iff right, builtinFiles,
      NamePatterns.matchesName_ofLiterals_iff]

end Exclusions

-- ---------------------------------------------------------------------------
-- Paths that are left out
-- ---------------------------------------------------------------------------

/-- The name at the end of a path decides alone, and a path without one is never left out. A
directory is left out when a built-in text stands in its name, when the name is that of version
control data, or when a further regular expression matches a part of the name, and a file likewise
but for the one name. Literals of any characters, written as escaped regular expressions, match
the names that they stand in, unless they are too large together. -/
theorem names_left_out (p : Path) :
    (∀ (directories files : List String) (x : Exclusions),
      (Exclusions.parse directories files = .ok x ∨
        Exclusions.compile directories files = .ok x) →
      (x.excludesDirectory p = true ↔ ∃ n, p.fileName? = some n ∧
        (HoldsOne defaultDirectoryLiterals n ∨ n = ".git" ∨ MeetsOne directories n)) ∧
      (x.excludesFile p = true ↔ ∃ n, p.fileName? = some n ∧
        (HoldsOne defaultFileLiterals n ∨ MeetsOne files n))) ∧
    ∀ (label : String) (literals : List String),
      (NamePatterns.parse label (literals.map Pattern.escaped) =
        if Pattern.costLimit < Pattern.totalCost (NamePatterns.ofLiterals label literals).patterns
        then .error .tooLarge else .ok (.ofLiterals label literals)) ∧
      ((NamePatterns.ofLiterals label literals).matchesPath p = true ↔
        ∃ n, p.fileName? = some n ∧ HoldsOne literals n) := by
  refine ⟨fun directories files x made => ?_, fun label literals => ⟨?_, ?_⟩⟩
  · obtain ⟨x', parsed, same⟩ : ∃ x', Exclusions.parse directories files = .ok x' ∧
        x'.tests = x.tests :=
      made.elim (fun parsed => ⟨x, parsed, rfl⟩) Exclusions.exists_parse_of_compile
    have names := fun n => same ▸ Exclusions.tests_iff parsed n
    constructor
    · rw [Exclusions.excludesDirectory, NamePatterns.matchesPath_iff]
      exact exists_congr fun n => and_congr_right fun _ => (names n).1
    · rw [Exclusions.excludesFile, NamePatterns.matchesPath_iff]
      exact exists_congr fun n => and_congr_right fun _ => (names n).2
  · exact NamePatterns.parse_escaped label literals
  · rw [NamePatterns.matchesPath_iff]
    exact exists_congr fun n => and_congr_right fun _ =>
      NamePatterns.matchesName_ofLiterals_iff label literals n

/-- Generated directories are left out beside the built-in names, of which `.github` holds none. -/
theorem names_left_out_generated :
    ∃ x, Exclusions.parse ["^gen.*$"] ["\\.min\\.js$"] = .ok x ∧
      x.excludesDirectory ⟨"web/.git"⟩ = true ∧ x.excludesDirectory ⟨"src/generated"⟩ = true ∧
      x.excludesDirectory ⟨"web/.github"⟩ = false ∧ x.excludesDirectory ⟨".git/.."⟩ = false ∧
      x.excludesFile ⟨"src/.eslintrc.js"⟩ = true := by
  have reads : (Exclusions.parse ["^gen.*$"] ["\\.min\\.js$"]).isOk = true := by decide +kernel
  cases parsed : Exclusions.parse ["^gen.*$"] ["\\.min\\.js$"] with
  | error e =>
    rw [parsed] at reads
    cases reads
  | ok x =>
    have directory := fun p => ((names_left_out p).1 _ _ x (.inl parsed)).1
    have file := fun p => ((names_left_out p).1 _ _ x (.inl parsed)).2
    refine ⟨x, rfl, ?_, ?_, ?_, ?_, ?_⟩
    · exact (directory ⟨"web/.git"⟩).2 ⟨".git", by decide, .inr (.inl rfl)⟩
    · exact (directory ⟨"src/generated"⟩).2
        ⟨"generated", by decide, .inr (.inr (by decide +kernel))⟩
    · rw [← Bool.not_eq_true, directory]
      rintro ⟨n, named, cause⟩
      have github : Path.fileName? ⟨"web/.github"⟩ = some ".github" := by decide
      obtain rfl : ".github" = n := Option.some.inj (github.symm.trans named)
      revert cause
      decide +kernel
    · rw [← Bool.not_eq_true, directory]
      rintro ⟨n, named, -⟩
      have unnamed : Path.fileName? ⟨".git/.."⟩ = none := by decide
      rw [unnamed] at named
      cases named
    · exact (file ⟨"src/.eslintrc.js"⟩).2 ⟨".eslintrc.js", by decide, .inl (by decide)⟩

end LicenseAudit
