import LicenseAudit.Proofs.Audit.FixAll
import LicenseAudit.Proofs.Selection.Intersection
import LicenseAudit.Proofs.Selection.Names

/-!
# Exclusions of an audit

What the configuration leaves out is added to what is built in, and a name is left out if it matches
any of the patterns. Which files must carry a header is therefore decided pattern by pattern: what
two lists of patterns leave is what each of them leaves, although the walk keeps out of whole
directories.

* `Engine.leavingOut` — an engine with other exclusions;
* `Engine.answer` — what the walk of an audit answers on a disk that may refuse calls.

## Results

* `NamePatterns.joins_add` — patterns with the texts of two lists match what those of either match.
* `Engine.exclusions_compose` — two lists of patterns leave what each of them leaves.
-/

namespace LicenseAudit

-- ---------------------------------------------------------------------------
-- Added patterns
-- ---------------------------------------------------------------------------

namespace NamePatterns

variable {ps base : NamePatterns} {texts : List String}

/-- The first patterns match the names that one of the other two matches. -/
def Joins (ps ps₁ ps₂ : NamePatterns) : Prop :=
  ∀ n, ps.matchesName n = (ps₁.matchesName n || ps₂.matchesName n)

theorem Joins.matchesPath {ps₁ ps₂ : NamePatterns} (h : ps.Joins ps₁ ps₂) (p : Path) :
    ps.matchesPath p = (ps₁.matchesPath p || ps₂.matchesPath p) := by
  unfold NamePatterns.matchesPath
  cases p.fileName? with
  | none => rfl
  | some n => exact h n

/-- Patterns with the texts of two lists match what the patterns of either list match. -/
theorem joins_add {ps₁ ps₂ : NamePatterns} {texts₁ texts₂ : List String}
    (h : base.add texts = .ok ps) (h₁ : base.add texts₁ = .ok ps₁) (h₂ : base.add texts₂ = .ok ps₂)
    (hTexts : ∀ t, t ∈ texts ↔ t ∈ texts₁ ∨ t ∈ texts₂) : ps.Joins ps₁ ps₂ := by
  intro n
  rw [Bool.eq_iff_iff, Bool.or_eq_true, matchesName_add_iff h, matchesName_add_iff h₁,
    matchesName_add_iff h₂, or_or_or_comm, or_self]
  refine or_congr Iff.rfl ?_
  constructor
  · rintro ⟨q, ⟨t, hMem, hParse⟩, hOccurs⟩
    rcases (hTexts t).mp hMem with hMem | hMem
    · exact Or.inl ⟨q, ⟨t, hMem, hParse⟩, hOccurs⟩
    · exact Or.inr ⟨q, ⟨t, hMem, hParse⟩, hOccurs⟩
  · rintro (⟨q, ⟨t, hMem, hParse⟩, hOccurs⟩ | ⟨q, ⟨t, hMem, hParse⟩, hOccurs⟩)
    · exact ⟨q, ⟨t, (hTexts t).mpr (Or.inl hMem), hParse⟩, hOccurs⟩
    · exact ⟨q, ⟨t, (hTexts t).mpr (Or.inr hMem), hParse⟩, hOccurs⟩

end NamePatterns

-- ---------------------------------------------------------------------------
-- Eligible files
-- ---------------------------------------------------------------------------

namespace Engine

variable {e : Engine} {fs : FileSystem} {refusals : Call → Option IoError} {root : Path}
  {x x₁ x₂ : Exclusions} {directories files directories₁ files₁ directories₂ files₂ : List String}

/-- The engine with other exclusions. -/
def leavingOut (e : Engine) (x : Exclusions) : Engine := { e with exclusions := x }

/-- What the search for the files that must carry a header answers, on a disk that may refuse
calls. -/
def answer (e : Engine) (fs : FileSystem) (refusals : Call → Option IoError) (root : Path) :
    Except WalkError (List Path) :=
  (((e.eligible root).refusing refusals).run fs).1

theorem answer_eq (e : Engine) (fs : FileSystem) (refusals : Call → Option IoError)
    (root : Path) :
    e.answer fs refusals root = (walk root e.selection).answer (fs.reply refusals) := by
  rw [answer, eligible, Program.run_refusing (walk_surveys root e.selection).readOnly]

/-- What matches neither of two exclusions matches their union. -/
theorem common_selection (e : Engine) (reply : (c : Call) → c.Reply)
    (hDirectories : x.directories.Joins x₁.directories x₂.directories)
    (hFiles : x.files.Joins x₁.files x₂.files) :
    Selection.Common reply (e.leavingOut x).selection (e.leavingOut x₁).selection
      (e.leavingOut x₂).selection where
  descends p := by
    rw [answer_descends_iff, answer_descends_iff, answer_descends_iff]
    simp only [leavingOut, hDirectories.matchesPath p, Bool.or_eq_false_iff]
  includes p := by
    rw [answer_includes_iff, answer_includes_iff, answer_includes_iff]
    simp only [leavingOut, hFiles.matchesPath p, Bool.or_eq_false_iff]
    tauto

/-- The patterns of two lists together leave what both lists leave. -/
theorem common_of_parse (e : Engine) (reply : (c : Call) → c.Reply)
    (h : Exclusions.parse directories files = .ok x)
    (h₁ : Exclusions.parse directories₁ files₁ = .ok x₁)
    (h₂ : Exclusions.parse directories₂ files₂ = .ok x₂)
    (hDirectories : ∀ t, t ∈ directories ↔ t ∈ directories₁ ∨ t ∈ directories₂)
    (hFiles : ∀ t, t ∈ files ↔ t ∈ files₁ ∨ t ∈ files₂) :
    Selection.Common reply (e.leavingOut x).selection (e.leavingOut x₁).selection
      (e.leavingOut x₂).selection := by
  obtain ⟨hAdd, hAdd'⟩ := Exclusions.of_parse h
  obtain ⟨hAdd₁, hAdd₁'⟩ := Exclusions.of_parse h₁
  obtain ⟨hAdd₂, hAdd₂'⟩ := Exclusions.of_parse h₂
  exact e.common_selection reply (NamePatterns.joins_add hAdd hAdd₁ hAdd₂ hDirectories)
    (NamePatterns.joins_add hAdd' hAdd₁' hAdd₂' hFiles)

/-- Where the audits end well, the patterns of two lists together find what both lists find. -/
theorem answer_shared (hTree : fs.WellFormed) (h : Exclusions.parse directories files = .ok x)
    (h₁ : Exclusions.parse directories₁ files₁ = .ok x₁)
    (h₂ : Exclusions.parse directories₂ files₂ = .ok x₂)
    (hDirectories : ∀ t, t ∈ directories ↔ t ∈ directories₁ ∨ t ∈ directories₂)
    (hFiles : ∀ t, t ∈ files ↔ t ∈ files₁ ∨ t ∈ files₂) {found found₁ found₂ : List Path}
    (hFound : (e.leavingOut x).answer fs refusals root = .ok found)
    (hFound₁ : (e.leavingOut x₁).answer fs refusals root = .ok found₁)
    (hFound₂ : (e.leavingOut x₂).answer fs refusals root = .ok found₂) :
    found = found₁.filter fun p => p ∈ found₂ := by
  rw [answer_eq] at hFound hFound₁ hFound₂
  exact walk_shared (Walk.listsInOrder_reply hTree refusals)
    (e.common_of_parse _ h h₁ h₂ hDirectories hFiles) hFound hFound₁ hFound₂

/-- **Two lists of patterns leave what each of them leaves.** With the patterns of both lists the
audit finds, in the same order, the files that it finds with either of them. So a further pattern
makes no file eligible, and neither the order of the patterns nor their repetition matters, not even
to an answer that is a failure. -/
theorem exclusions_compose (hTree : fs.WellFormed) (e : Engine)
    (refusals : Call → Option IoError) (root : Path)
    (h₁ : Exclusions.parse directories₁ files₁ = .ok x₁)
    (h₂ : Exclusions.parse directories₂ files₂ = .ok x₂) :
    (∀ x found found₁ found₂,
      Exclusions.parse (directories₁ ++ directories₂) (files₁ ++ files₂) = .ok x →
      (e.leavingOut x).answer fs refusals root = .ok found →
      (e.leavingOut x₁).answer fs refusals root = .ok found₁ →
      (e.leavingOut x₂).answer fs refusals root = .ok found₂ →
      found = found₁.filter fun p => p ∈ found₂) ∧
    (directories₁ ⊆ directories₂ → files₁ ⊆ files₂ → ∀ found₁ found₂,
      (e.leavingOut x₁).answer fs refusals root = .ok found₁ →
      (e.leavingOut x₂).answer fs refusals root = .ok found₂ → found₂.Sublist found₁) ∧
    ((∀ t, t ∈ directories₁ ↔ t ∈ directories₂) → (∀ t, t ∈ files₁ ↔ t ∈ files₂) →
      (e.leavingOut x₁).answer fs refusals root = (e.leavingOut x₂).answer fs refusals root) := by
  refine ⟨fun x found found₁ found₂ h hFound hFound₁ hFound₂ => ?_,
    fun hDirectories hFiles found₁ found₂ hFound₁ hFound₂ => ?_, fun hDirectories hFiles => ?_⟩
  · exact answer_shared hTree h h₁ h₂ (fun t => List.mem_append) (fun t => List.mem_append)
      hFound hFound₁ hFound₂
  · -- the larger list is the two lists together
    have hDirectories' : ∀ t, t ∈ directories₂ ↔ t ∈ directories₁ ∨ t ∈ directories₂ :=
      fun t => (or_iff_right_of_imp fun hMem => hDirectories hMem).symm
    have hFiles' : ∀ t, t ∈ files₂ ↔ t ∈ files₁ ∨ t ∈ files₂ :=
      fun t => (or_iff_right_of_imp fun hMem => hFiles hMem).symm
    rw [answer_shared hTree h₂ h₁ h₂ hDirectories' hFiles' hFound₂ hFound₁ hFound₂]
    exact List.filter_sublist
  · have hCommon := e.common_of_parse (fs.reply refusals) h₁ h₂ h₂
      (fun t => (hDirectories t).trans (or_self_iff).symm)
      (fun t => (hFiles t).trans (or_self_iff).symm)
    rw [answer_eq, answer_eq, answer_walk_congr (Walk.agree_of_common hCommon)]

-- ---------------------------------------------------------------------------
-- A tree with an old directory
-- ---------------------------------------------------------------------------

/-- A tree with a file and a directory that holds another one. -/
def shelvedTree : FileSystem :=
  ⟨[(["a.rs"], .file [] 0o644), (["old"], .directory 0o755), (["c.rs", "old"], .file [] 0o644)],
    []⟩

theorem wellFormed_shelvedTree : shelvedTree.WellFormed :=
  .of_entries (by decide) (by decide)

theorem list_shelvedTree :
    shelvedTree.list ⟨"."⟩ = .ok [("a.rs", .file), ("old", .directory)] ∧
      shelvedTree.list ⟨"./old"⟩ = .ok [("c.rs", .file)] := by
  have hBefore : "a.rs" ≤ "old" := by decide
  have hRoot : shelvedTree.children [] = [("a.rs", .file [] 0o644), ("old", .directory 0o755)] := by
    simp [shelvedTree, FileSystem.children, List.mergeSort, List.MergeSort.Internal.splitInTwo,
      hBefore]
  have hOld : shelvedTree.children ["old"] = [("c.rs", .file [] 0o644)] := by
    simp [shelvedTree, FileSystem.children]
  have hFindRoot : shelvedTree.find true ⟨"."⟩ = .ok ([], .directory 0o755) := rfl
  have hFindOld : shelvedTree.find true ⟨"./old"⟩ = .ok (["old"], .directory 0o755) := by
    decide
  rw [FileSystem.list, FileSystem.list, hFindRoot, hFindOld]
  simp [hRoot, hOld, bind, Except.bind, Entry.status]

/-- What is left of the tree when names are left out. -/
def shelvedFiles (x : Exclusions) : List Path :=
  (if x.files.matchesName "a.rs" then [] else [⟨"./a.rs"⟩]) ++
    if x.directories.matchesName "old" || x.files.matchesName "c.rs" then [] else [⟨"./old/c.rs"⟩]

theorem answer_shelvedTree (x : Exclusions) :
    (letterEngine.leavingOut x).answer shelvedTree (fun _ => none) ⟨"."⟩ =
      .ok (shelvedFiles x) := by
  have hRoot : shelvedTree.reply (fun _ => none) (.list ⟨"."⟩) =
      .ok [("a.rs", .file), ("old", .directory)] := list_shelvedTree.1
  have hOld : shelvedTree.reply (fun _ => none) (.list ⟨"./old"⟩) = .ok [("c.rs", .file)] :=
    list_shelvedTree.2
  have hJoins : (⟨"."⟩ : Path).join ⟨"a.rs"⟩ = ⟨"./a.rs"⟩ ∧
      (⟨"."⟩ : Path).join ⟨"old"⟩ = ⟨"./old"⟩ ∧
      (⟨"./old"⟩ : Path).join ⟨"c.rs"⟩ = ⟨"./old/c.rs"⟩ := by decide
  have hNames : (⟨"."⟩ : Path).fileName? = none ∧ (⟨"./a.rs"⟩ : Path).fileName? = some "a.rs" ∧
      (⟨"./old"⟩ : Path).fileName? = some "old" ∧
      (⟨"./old/c.rs"⟩ : Path).fileName? = some "c.rs" := by decide
  have hPlain : ∀ p ∈ [(⟨"./a.rs"⟩ : Path), ⟨"./old/c.rs"⟩],
      shelvedTree.reply (fun _ => none) (.linkStatus p) = .ok ⟨.file, 0o644⟩ ∧
        letterEngine.headers.supports p = true := by decide
  have hDescends : ∀ p, ((letterEngine.leavingOut x).selection.descends p).answer
      (shelvedTree.reply fun _ => none) = !x.directories.matchesPath p := by
    intro p
    rw [Bool.eq_iff_iff, answer_descends_iff, Bool.not_eq_true']
    rfl
  have hIncludes : ∀ p ∈ [(⟨"./a.rs"⟩ : Path), ⟨"./old/c.rs"⟩],
      ((letterEngine.leavingOut x).selection.includes p).answer
        (shelvedTree.reply fun _ => none) = !x.files.matchesPath p := by
    intro p hMem
    obtain ⟨hStatus, hSupports⟩ := hPlain p hMem
    rw [Bool.eq_iff_iff, answer_includes_iff, Bool.not_eq_true']
    refine ⟨fun h => h.1, fun h => ⟨h, fun s hFile => ?_, hSupports⟩⟩
    rw [hStatus] at hFile
    cases hFile
    decide
  obtain ⟨depth, hDepth⟩ : ∃ depth, pathLimit = depth + 1 + 1 := ⟨4094, rfl⟩
  rw [answer_eq, answer_walk_eq_ok_iff,
    Walk.answer_fromRoot_directory (s := ⟨.directory, 0o755⟩) rfl rfl, hDepth]
  cases hA : x.files.matchesName "a.rs" <;> cases hOut : x.directories.matchesName "old" <;>
    cases hC : x.files.matchesName "c.rs" <;>
    simp [Walk.inside, Walk.visitAll, Walk.answer_report, Program.answer_bind, Program.answer_map,
      NamePatterns.matchesPath, shelvedFiles, hRoot, hOld, hJoins, hNames, hDescends, hIncludes,
      hA, hOut, hC]

/-- The exclusions with the given patterns, if these are patterns. -/
def withPatterns (directories files : List String) : Exclusions :=
  (Exclusions.parse directories files).toOption.getD .builtin

theorem parse_withPatterns (directories files : List String)
    (h : (Exclusions.parse directories files).isOk = true) :
    Exclusions.parse directories files = .ok (withPatterns directories files) := by
  rw [withPatterns]
  cases hParse : Exclusions.parse directories files with
  | error e =>
    rw [hParse] at h
    cases h
  | ok x => rfl

/-- One pattern leaves out the directory and the other one the file beside it: the walk that is
pruned finds nothing. -/
theorem exclusions_compose_old_directory :
    (letterEngine.leavingOut (withPatterns ["old"] ["^a"])).answer shelvedTree (fun _ => none)
        ⟨"."⟩ = .ok [] ∧
      [] = [(⟨"./a.rs"⟩ : Path)].filter fun p => p ∈ [(⟨"./old/c.rs"⟩ : Path)] := by
  have hBoth := parse_withPatterns ["old"] ["^a"] (by decide +kernel)
  have hOld := parse_withPatterns ["old"] [] (by decide +kernel)
  have hFile := parse_withPatterns [] ["^a"] (by decide +kernel)
  have hFound : (letterEngine.leavingOut (withPatterns ["old"] ["^a"])).answer shelvedTree
      (fun _ => none) ⟨"."⟩ = .ok [] :=
    (answer_shelvedTree _).trans (congrArg Except.ok (by decide +kernel))
  have hFound₁ : (letterEngine.leavingOut (withPatterns ["old"] [])).answer shelvedTree
      (fun _ => none) ⟨"."⟩ = .ok [⟨"./a.rs"⟩] :=
    (answer_shelvedTree _).trans (congrArg Except.ok (by decide +kernel))
  have hFound₂ : (letterEngine.leavingOut (withPatterns [] ["^a"])).answer shelvedTree
      (fun _ => none) ⟨"."⟩ = .ok [⟨"./old/c.rs"⟩] :=
    (answer_shelvedTree _).trans (congrArg Except.ok (by decide +kernel))
  have hCompose := exclusions_compose wellFormed_shelvedTree letterEngine (fun _ => none) ⟨"."⟩
    hOld hFile
  exact ⟨hFound, hCompose.1 _ _ _ _ hBoth hFound hFound₁ hFound₂⟩

end Engine

end LicenseAudit
