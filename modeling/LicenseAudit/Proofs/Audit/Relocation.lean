import LicenseAudit.Proofs.Audit.Classes
import LicenseAudit.Proofs.Header.LetterCase
import LicenseAudit.Proofs.Selection.Reach

/-!
# The place of a tree

A tree is audited by its contents. Where it lies, and how the path of its root is written, shows in
one way only: the name of the root is offered to the directory patterns like any other name, so that
a root whose own name is left out is left out with all that it holds. The disk may refuse calls
below the root, if it refuses the same ones wherever the tree lies.

* `Engine.Enters`, `Engine.Reaches` — the directories and the files that an audit gets to;
* `Engine.Passable` — a tree whose walk ends well;
* `RefusedAlike` — the same calls are refused below two roots;
* `Engine.Twins` — the same tree at two roots, neither of which is left out.

## Results

* `enters_iff`, `reaches_concat_iff` — what an audit gets to is told by names and entries.
* `eligible_reaches` — when the walk of an audit ends well, and what it finds.
* `audit_relocates` — the place of a tree does not matter, but the name of its root does.
-/

namespace LicenseAudit

open FileSystem

-- ---------------------------------------------------------------------------
-- Headers and exclusions by name
-- ---------------------------------------------------------------------------

theorem NamePatterns.matchesPath_of_fileName? {ps : NamePatterns} {p : Path} {n : String}
    (h : p.fileName? = some n) : ps.matchesPath p = ps.matchesName n := by
  rw [matchesPath, h]

/-- Whether a path takes a header depends on its last name only. -/
theorem Registry.supports_congr (r : Registry) {p q : Path} (h : p.fileName? = q.fileName?) :
    r.supports p = r.supports q := by
  have hNames : p.NamedAlike q := by
    unfold Path.NamedAlike
    rw [h]
  exact (r.treatsAlike hNames).supports

-- ---------------------------------------------------------------------------
-- Refusals
-- ---------------------------------------------------------------------------

/-- Below two roots the same looks are refused, and a file that may be read may be looked at. -/
structure RefusedAlike (refusals refusals' : Call → Option IoError) (root root' : Path) :
    Prop where
  seen  : ∀ names, (∀ n ∈ names, ProperName n) → refusals (.read (root.below names)) = none →
    refusals (.linkStatus (root.below names)) = none
  alike : ∀ look ∈ [Call.list, Call.linkStatus, Call.read], ∀ names, (∀ n ∈ names, ProperName n) →
    (refusals' (look (root'.below names)) = none ↔ refusals (look (root.below names)) = none)

namespace RefusedAlike

variable {refusals refusals' : Call → Option IoError} {root root' : Path} {names : List String}

theorem list (h : RefusedAlike refusals refusals' root root')
    (hProper : ∀ n ∈ names, ProperName n) :
    refusals' (.list (root'.below names)) = none ↔ refusals (.list (root.below names)) = none :=
  h.alike .list (by simp) names hProper

theorem linkStatus (h : RefusedAlike refusals refusals' root root')
    (hProper : ∀ n ∈ names, ProperName n) :
    refusals' (.linkStatus (root'.below names)) = none ↔
      refusals (.linkStatus (root.below names)) = none :=
  h.alike .linkStatus (by simp) names hProper

theorem read (h : RefusedAlike refusals refusals' root root')
    (hProper : ∀ n ∈ names, ProperName n) :
    refusals' (.read (root'.below names)) = none ↔ refusals (.read (root.below names)) = none :=
  h.alike .read (by simp) names hProper

theorem symm (h : RefusedAlike refusals refusals' root root') :
    RefusedAlike refusals' refusals root' root where
  seen names hProper hMay :=
    (h.linkStatus hProper).mpr (h.seen names hProper ((h.read hProper).mp hMay))
  alike look hLook names hProper := (h.alike look hLook names hProper).symm

end RefusedAlike

namespace Engine

variable {e : Engine} {r : Registry} {fs fs' : FileSystem}
  {refusals refusals' : Call → Option IoError} {root root' : Path} {l l' : Location}
  {names : List String}

-- ---------------------------------------------------------------------------
-- What is entered
-- ---------------------------------------------------------------------------

/-- The directories that an audit enters below a root. -/
abbrev Enters (e : Engine) (fs : FileSystem) (refusals : Call → Option IoError) (root : Path)
    (l : Location) (names : List String) : Prop :=
  Walk.Entered e.selection fs refusals root l names

/-- The files that an audit reaches below a root. -/
abbrev Reaches (e : Engine) (fs : FileSystem) (refusals : Call → Option IoError) (root : Path)
    (l : Location) (names : List String) : Prop :=
  Walk.Reached e.selection fs refusals root l names

/-- If the root itself is not left out, directories are entered by their names. -/
theorem enters_iff (hTree : fs.WellFormed)
    (hKept : e.exclusions.directories.matchesPath root = false) :
    e.Enters fs refusals root l names ↔
      (∀ front, front <+: names → fs.isDirectory (l.below front) = true) ∧
        ∀ n ∈ names, e.exclusions.directories.matchesName n = false := by
  have hJoin : ∀ (front : List String) {n : String}, ProperName n →
      (e.selection.Enters fs refusals (root.below (front ++ [n])) ↔
        e.exclusions.directories.matchesName n = false) := by
    intro front n hProper
    rw [Selection.enters_iff, answer_descends_iff, Path.below_concat,
      NamePatterns.matchesPath_of_fileName? (Path.fileName?_join _ hProper)]
  have hProper : ∀ {front : List String}, fs.isDirectory (l.below front) = true →
      ∀ n ∈ front, ProperName n := by
    intro front hDir
    obtain ⟨mode, hEntry⟩ := exists_directory hDir
    exact hTree.properNames hEntry
  constructor
  · intro h
    refine ⟨fun front hFront => (h front hFront).1, fun n hMem => ?_⟩
    obtain ⟨front, rest, rfl⟩ := List.append_of_mem hMem
    have hFront : front ++ [n] <+: front ++ n :: rest := ⟨rest, by simp⟩
    have hHere := h _ hFront
    exact (hJoin front (hProper hHere.1 n (by simp))).mp hHere.2
  · rintro ⟨hDirs, hNames⟩ front hFront
    refine ⟨hDirs front hFront, ?_⟩
    rcases List.eq_nil_or_concat front with rfl | ⟨before, n, rfl⟩
    · exact Selection.enters_iff.mpr (answer_descends_iff.mpr hKept)
    · rw [List.concat_eq_append] at hFront ⊢
      have hLast : n ∈ before ++ [n] := by simp
      exact (hJoin before (hProper (hDirs _ hFront) n hLast)).mpr
        (hNames n (hFront.subset hLast))

theorem Enters.directory (h : e.Enters fs refusals root l names) :
    fs.isDirectory (l.below names) = true :=
  (h names (List.prefix_refl _)).1

theorem Enters.proper (hTree : fs.WellFormed) (h : e.Enters fs refusals root l names) :
    ∀ n ∈ names, ProperName n := by
  obtain ⟨mode, hEntry⟩ := exists_directory h.directory
  exact hTree.properNames hEntry

theorem Reaches.proper (hTree : fs.WellFormed) (h : e.Reaches fs refusals root l names) :
    ∀ n ∈ names, ProperName n := by
  obtain ⟨x, hEntry, -⟩ := h.entry
  exact hTree.properNames hEntry

theorem Enters.front {n : String} (h : e.Enters fs refusals root l (names ++ [n])) :
    e.Enters fs refusals root l names :=
  fun front hFront => h front (hFront.trans (List.prefix_append names [n]))

-- ---------------------------------------------------------------------------
-- What is listed
-- ---------------------------------------------------------------------------

/-- The root of a tree is listed. -/
theorem lists_root (hHosts : fs.Hosts root l) : fs.Lists root l := by
  obtain ⟨mode, hEntry⟩ := exists_directory hHosts.directory
  exact ⟨locate_true_of_false hHosts.located hEntry rfl, hHosts.directory⟩

/-- An entry below the root has a proper name and a path that is not too long. -/
theorem fits_of_entry (hTree : fs.WellFormed) (hHosts : fs.Hosts root l) {n : String} {x : Entry}
    (hEntry : fs.lookup? (l.below (names ++ [n])) = some x) :
    ProperName n ∧ ((root.below names).join ⟨n⟩).text.utf8ByteSize < pathLimit := by
  refine ⟨hTree.properNames hEntry n (by simp), ?_⟩
  rw [← Path.below_concat]
  exact hHosts.fits _ x hEntry

/-- Under usable names every directory that is entered is listed. -/
theorem lists_of_usable (hTree : fs.WellFormed) (hHosts : fs.Hosts root l)
    (hEnters : e.Enters fs refusals root l names) (hUsable : ∀ n ∈ names, Usable n) :
    fs.Lists (root.below names) (l.below names) := by
  induction names using List.reverseRecOn with
  | nil => exact lists_root hHosts
  | append_singleton front n ih =>
    have hFront := ih hEnters.front fun m hMem => hUsable m (List.mem_append_left _ hMem)
    have hDir := hEnters.directory
    obtain ⟨mode, hEntry⟩ := exists_directory hDir
    obtain ⟨hProper, hFits⟩ := fits_of_entry hTree hHosts hEntry
    rw [Path.below_concat, Location.below_concat] at *
    exact hFront.join hProper hDir hFits (hUsable n (by simp))

/-- If every directory that is entered can be listed, its names are usable. -/
theorem usable_of_listed (hTree : fs.WellFormed) (hHosts : fs.Hosts root l)
    (hListed : ∀ names, e.Enters fs refusals root l names →
      ∃ entries, fs.reply refusals (.list (root.below names)) = .ok entries)
    (hEnters : e.Enters fs refusals root l names) : ∀ n ∈ names, Usable n := by
  induction names using List.reverseRecOn with
  | nil => exact fun n hMem => absurd hMem List.not_mem_nil
  | append_singleton front n ih =>
    have hUsable := ih hEnters.front
    have hFront := lists_of_usable hTree hHosts hEnters.front hUsable
    obtain ⟨mode, hEntry⟩ := exists_directory hEnters.directory
    obtain ⟨hProper, hFits⟩ := fits_of_entry hTree hHosts hEntry
    obtain ⟨entries, hList⟩ := hListed _ hEnters
    obtain ⟨l', hLists⟩ := lists_of_list (list_of_reply hList)
    have hLocated := hLists.located
    rw [Path.below_concat] at hLocated
    intro m hMem
    rcases List.mem_append.mp hMem with hBefore | hLast
    · exact hUsable m hBefore
    · rw [List.mem_singleton.mp hLast]
      exact hFront.usable hProper hFits hLocated

/-- The eligible files are what a walk answers. -/
theorem run_eligible (e : Engine) (root : Path) (fs : FileSystem)
    (refusals : Call → Option IoError) :
    (((e.eligible root).refusing refusals).run fs).1 =
      (walk root e.selection).answer (fs.reply refusals) := by
  rw [eligible, Program.run_refusing (walk_surveys root e.selection).readOnly]

/-- The walk of an audit may look at the root and may open every directory that it enters, and the
names of these directories are usable. -/
structure Passable (e : Engine) (fs : FileSystem) (refusals : Call → Option IoError) (root : Path)
    (l : Location) : Prop where
  seen   : refusals (.linkStatus root) = none
  opens  : ∀ names, e.Enters fs refusals root l names → refusals (.list (root.below names)) = none
  usable : ∀ names, e.Enters fs refusals root l names → ∀ n ∈ names, Usable n

/-- The walk of an audit ends well just if the tree is passable. Then it finds what it reaches, in
the order of paths. -/
theorem eligible_reaches (e : Engine) (refusals : Call → Option IoError) (hTree : fs.WellFormed)
    (hHosts : fs.Hosts root l) :
    ((∃ files, (((e.eligible root).refusing refusals).run fs).1 = .ok files) ↔
      e.Passable fs refusals root l) ∧
    ∀ files, (((e.eligible root).refusing refusals).run fs).1 = .ok files →
      (∀ p, p ∈ files ↔ ∃ names, p = root.below names ∧ e.Reaches fs refusals root l names) ∧
      files.Pairwise fun p q => p.key < q.key := by
  obtain ⟨mode, hEntry⟩ := exists_directory hHosts.directory
  have hStatus := linkStatus_eq hHosts.located hEntry
  rw [run_eligible]
  obtain ⟨cause, failure, hReply, hAnswer⟩ | ⟨⟨s, hLooked⟩, l', hLocated,
      ⟨found, hAnswer, hExplored⟩ | ⟨failure, names, hAnswer, hEnters, cause, hRefused⟩⟩ :=
    walk_cases hTree e.selection refusals (noLink_of_directory hStatus)
  · rw [hAnswer]
    refine ⟨iff_of_false ?_ fun hPassable => ?_, fun files hFiles => ?_⟩
    · rintro ⟨files, hFiles⟩
      cases hFiles
    · rw [reply_of_unrefused hPassable.seen] at hReply
      cases hStatus.symm.trans hReply
    · cases hFiles
  · obtain rfl := Except.ok.inj (hHosts.located.symm.trans hLocated)
    have hOrdered := (walk_ordered (Walk.listsInOrder_reply hTree refusals) hAnswer).2
    rw [hAnswer]
    refine ⟨iff_of_true ⟨found, rfl⟩ ⟨unrefused_of_looked hLooked, fun names hEnters => ?_,
      fun names hEnters => ?_⟩, ?_⟩
    · obtain ⟨entries, hList⟩ := hExplored.listed names hEnters
      exact unrefused_of_listed hList
    · exact usable_of_listed hTree hHosts hExplored.listed hEnters
    · rintro files hFiles
      obtain rfl := Except.ok.inj hFiles
      exact ⟨hExplored.mem_iff, hOrdered⟩
  · obtain rfl := Except.ok.inj (hHosts.located.symm.trans hLocated)
    rw [hAnswer]
    refine ⟨iff_of_false ?_ fun hPassable => ?_, fun files hFiles => ?_⟩
    · rintro ⟨files, hFiles⟩
      cases hFiles
    · obtain ⟨entries, hList⟩ :=
        (lists_of_usable hTree hHosts hEnters (hPassable.usable names hEnters)).list
      rw [reply_of_unrefused (hPassable.opens names hEnters)] at hRefused
      cases hList.symm.trans hRefused
    · cases hFiles

-- ---------------------------------------------------------------------------
-- What is reached
-- ---------------------------------------------------------------------------

/-- The audit takes an entry under a name: the name is not left out, the entry takes a header, and
it is no link that the system would tell of, where it may be looked at. -/
structure Accepts (e : Engine) (mayLook : Prop) (n : String) (x : Entry) : Prop where
  plain    : x.isDirectory = false
  kept     : e.exclusions.files.matchesName n = false
  noLink   : mayLook → Usable n → x.status.kind ≠ .link
  supports : e.headers.supports ⟨n⟩ = true

/-- What is told of an entry is what the entry is, where it may be looked at. -/
theorem forall_linkStatus_iff {p : Path} {P : Status → Prop} :
    (∀ s, fs.reply refusals (.linkStatus p) = .ok s → P s) ↔
      (refusals (.linkStatus p) = none → ∀ s, fs.linkStatus p = .ok s → P s) := by
  constructor
  · intro h hMay s hStatus
    exact h s ((reply_of_unrefused hMay).trans hStatus)
  · intro h s hReply
    exact h (unrefused_of_looked hReply) s (linkStatus_of_reply hReply)

/-- An entry of a directory that is listed is reached by its name. -/
theorem reaches_concat_iff (hTree : fs.WellFormed) (hHosts : fs.Hosts root l)
    (hHeaders : e.headers = r.source) {front : List String} {n : String}
    (hFront : fs.Lists (root.below front) (l.below front)) :
    e.Reaches fs refusals root l (front ++ [n]) ↔ e.Enters fs refusals root l front ∧
      ∃ x, fs.lookup? (l.below (front ++ [n])) = some x ∧
        e.Accepts (refusals (.linkStatus (root.below (front ++ [n]))) = none) n x := by
  have hWay : (∀ before, before <+: front ++ [n] → before ≠ front ++ [n] →
      fs.isDirectory (l.below before) = true ∧
        e.selection.Enters fs refusals (root.below before)) ↔
      e.Enters fs refusals root l front := by
    refine forall_congr' fun before => ?_
    rw [List.prefix_concat_iff]
    constructor
    · intro h hBefore
      refine h (Or.inr hBefore) ?_
      rintro rfl
      simpa using hBefore.length_le
    · rintro h (rfl | hBefore) hOther
      · exact absurd rfl hOther
      · exact h hBefore
  have hTakes : ∀ {x}, fs.lookup? (l.below (front ++ [n])) = some x →
      (e.selection.Takes fs refusals (root.below (front ++ [n])) ↔
        e.exclusions.files.matchesName n = false ∧
          (refusals (.linkStatus (root.below (front ++ [n]))) = none →
            Usable n → x.status.kind ≠ .link) ∧
          e.headers.supports ⟨n⟩ = true) := by
    intro x hEntry
    obtain ⟨hProper, hFits⟩ := fits_of_entry hTree hHosts hEntry
    have hName := Path.fileName?_join (root.below front) hProper
    have hSupports : e.headers.supports ((root.below front).join ⟨n⟩) =
        e.headers.supports ⟨n⟩ := by
      simp only [hHeaders, Registry.source]
      exact r.supports_congr (hName.trans (Path.named_of_name hProper).fileName?_eq.symm)
    rw [Location.below_concat] at hEntry
    rw [Selection.takes_iff, answer_includes_iff, Path.below_concat,
      NamePatterns.matchesPath_of_fileName? hName, hSupports, forall_linkStatus_iff,
      ← hFront.noLink_iff hProper hFits hEntry]
  constructor
  · rintro ⟨⟨x, hEntry, hPlain⟩, hTaken, hBefore⟩
    obtain ⟨hKept, hNoLink, hSupports⟩ := (hTakes hEntry).mp hTaken
    exact ⟨hWay.mp hBefore, x, hEntry, hPlain, hKept, hNoLink, hSupports⟩
  · rintro ⟨hEnters, x, hEntry, hAccepts⟩
    exact ⟨⟨x, hEntry, hAccepts.plain⟩,
      (hTakes hEntry).mpr ⟨hAccepts.kept, hAccepts.noLink, hAccepts.supports⟩, hWay.mpr hEnters⟩

/-- What is reached lies in a directory that is entered. -/
theorem Reaches.exists_front (hHosts : fs.Hosts root l) (h : e.Reaches fs refusals root l names) :
    ∃ front n, names = front ++ [n] ∧ e.Enters fs refusals root l front := by
  rcases List.eq_nil_or_concat names with rfl | ⟨front, n, rfl⟩
  · exact absurd h (Walk.not_reached_nil hHosts.directory)
  · rw [List.concat_eq_append] at h ⊢
    refine ⟨front, n, rfl, fun before hBefore => h.way before ?_ ?_⟩
    · exact hBefore.trans (List.prefix_append front [n])
    · rintro rfl
      simpa using hBefore.length_le

-- ---------------------------------------------------------------------------
-- Two roots
-- ---------------------------------------------------------------------------

/-- The same tree stands at two roots, and neither root is left out by its own name. -/
structure Twins (e : Engine) (fs : FileSystem) (refusals : Call → Option IoError) (root : Path)
    (l : Location) (fs' : FileSystem) (refusals' : Call → Option IoError) (root' : Path)
    (l' : Location) : Prop where
  tree    : fs.WellFormed
  tree'   : fs'.WellFormed
  hosts   : fs.Hosts root l
  hosts'  : fs'.Hosts root' l'
  same    : SameBelow fs fs' l l'
  refused : RefusedAlike refusals refusals' root root'
  kept    : e.exclusions.directories.matchesPath root = false
  kept'   : e.exclusions.directories.matchesPath root' = false

theorem Twins.symm (h : e.Twins fs refusals root l fs' refusals' root' l') :
    e.Twins fs' refusals' root' l' fs refusals root l :=
  ⟨h.tree', h.tree, h.hosts', h.hosts, h.same.symm, h.refused.symm, h.kept', h.kept⟩

/-- The same directories are entered. -/
theorem Twins.enters_iff (h : e.Twins fs refusals root l fs' refusals' root' l') :
    e.Enters fs' refusals' root' l' names ↔ e.Enters fs refusals root l names := by
  have hDirs := h.same.isDirectory h.hosts.directory h.hosts'.directory
  rw [Engine.enters_iff h.tree' h.kept', Engine.enters_iff h.tree h.kept]
  simp only [hDirs]

/-- Both trees are passable or neither. -/
theorem Twins.passable (h : e.Twins fs refusals root l fs' refusals' root' l')
    (hPassable : e.Passable fs refusals root l) : e.Passable fs' refusals' root' l' where
  seen := (h.refused.alike .linkStatus (by simp) [] (by simp)).mpr hPassable.seen
  opens names hEnters :=
    (h.refused.list (hEnters.proper h.tree')).mpr (hPassable.opens names (h.enters_iff.mp hEnters))
  usable names hEnters := hPassable.usable names (h.enters_iff.mp hEnters)

/-- What is reached at the one root stands at the other as well, in directories that are listed, if
the trees are passable. -/
theorem Twins.exists_entry (h : e.Twins fs refusals root l fs' refusals' root' l')
    (hHeaders : e.headers = r.source) (hPassable : e.Passable fs refusals root l)
    (hReaches : e.Reaches fs refusals root l names) :
    ∃ front n x, names = front ++ [n] ∧ e.Enters fs' refusals' root' l' front ∧
      fs.Lists (root.below front) (l.below front) ∧
      fs'.Lists (root'.below front) (l'.below front) ∧
      fs.lookup? (l.below (front ++ [n])) = some x ∧
      fs'.lookup? (l'.below (front ++ [n])) = some x ∧
      e.Accepts (refusals (.linkStatus (root.below (front ++ [n]))) = none) n x := by
  obtain ⟨front, n, rfl, hEnters⟩ := hReaches.exists_front h.hosts
  have hEnters' := h.enters_iff.mpr hEnters
  have hUsable := hPassable.usable front hEnters
  have hLists := lists_of_usable h.tree h.hosts hEnters hUsable
  have hLists' := lists_of_usable h.tree' h.hosts' hEnters' hUsable
  obtain ⟨-, x, hEntry, hAccepts⟩ :=
    (reaches_concat_iff h.tree h.hosts hHeaders hLists).mp hReaches
  exact ⟨front, n, x, rfl, hEnters', hLists, hLists', hEntry,
    (h.same.lookup?_concat front n).trans hEntry, hAccepts⟩

/-- The same files are reached, if the trees are passable. -/
theorem Twins.reaches (h : e.Twins fs refusals root l fs' refusals' root' l')
    (hHeaders : e.headers = r.source) (hPassable : e.Passable fs refusals root l)
    (hReaches : e.Reaches fs refusals root l names) :
    e.Reaches fs' refusals' root' l' names := by
  obtain ⟨front, n, x, rfl, hEnters', -, hLists', -, hEntry', hAccepts⟩ :=
    h.exists_entry hHeaders hPassable hReaches
  refine (reaches_concat_iff h.tree' h.hosts' hHeaders hLists').mpr ⟨hEnters', x, hEntry', ?_⟩
  have hLink := h.refused.linkStatus (hReaches.proper h.tree)
  exact { hAccepts with noLink := fun hMay => hAccepts.noLink (hLink.mp hMay) }

/-- An audit of the one root that ends well finds the same files as an audit of the other. -/
theorem Twins.eligible (h : e.Twins fs refusals root l fs' refusals' root' l')
    (hHeaders : e.headers = r.source) {files : List Path}
    (hFiles : (((e.eligible root).refusing refusals).run fs).1 = .ok files) :
    ∃ relative : List (List String), files = relative.map root.below ∧
      (∀ names ∈ relative, e.Reaches fs refusals root l names) ∧
      (((e.eligible root').refusing refusals').run fs').1 = .ok (relative.map root'.below) := by
  obtain ⟨hEnds, hFound⟩ := eligible_reaches e refusals h.tree h.hosts
  obtain ⟨hEnds', hFound'⟩ := eligible_reaches e refusals' h.tree' h.hosts'
  have hPassable := hEnds.mp ⟨files, hFiles⟩
  have hPassable' := h.passable hPassable
  obtain ⟨files', hFiles'⟩ := hEnds'.mpr hPassable'
  obtain ⟨hMem, hOrdered⟩ := hFound files hFiles
  obtain ⟨hMem', hOrdered'⟩ := hFound' files' hFiles'
  -- the names of the files that are found
  choose! names hNames hReaches using fun p hp => (hMem p).mp hp
  have hRelative : ∀ p ∈ files, root.below (names p) = p := fun p hp => (hNames p hp).symm
  refine ⟨files.map names, ?_, ?_, ?_⟩
  · rw [List.map_map]
    exact (List.map_id files).symm.trans (List.map_congr_left hNames)
  · intro ns hIn
    obtain ⟨p, hp, rfl⟩ := List.mem_map.mp hIn
    exact hReaches p hp
  · have hProper : ∀ {ns}, e.Reaches fs refusals root l ns → ∀ n ∈ ns, ProperName n :=
      fun hReached => hReached.proper h.tree
    rw [hFiles']
    congr 1
    refine eq_of_increasing hOrdered' ?_ fun p => ?_
    · rw [List.map_map, List.pairwise_map]
      refine hOrdered.imp_of_mem fun {p q} hp hq hBefore => ?_
      rw [← hRelative p hp, ← hRelative q hq,
        Path.key_below_lt_iff (hProper (hReaches p hp)) (hProper (hReaches q hq))] at hBefore
      exact (Path.key_below_lt_iff (hProper (hReaches p hp)) (hProper (hReaches q hq))).mpr hBefore
    · rw [hMem', List.map_map, List.mem_map]
      constructor
      · rintro ⟨ns, rfl, hReached'⟩
        have hReached := h.symm.reaches hHeaders hPassable' hReached'
        have hp := (hMem (root.below ns)).mpr ⟨ns, rfl, hReached⟩
        refine ⟨root.below ns, hp, congrArg root'.below ?_⟩
        exact Path.below_inj (hProper (hReaches _ hp)) (hProper hReached) (hRelative _ hp)
      · rintro ⟨p, hp, rfl⟩
        exact ⟨names p, rfl, h.reaches hHeaders hPassable (hReaches p hp)⟩

-- ---------------------------------------------------------------------------
-- Checks of two roots
-- ---------------------------------------------------------------------------

/-- What is read of a file at the one root is read of it at the other. -/
theorem Twins.read (h : e.Twins fs refusals root l fs' refusals' root' l')
    (hHeaders : e.headers = r.source) (hPassable : e.Passable fs refusals root l)
    (hReaches : e.Reaches fs refusals root l names) {content : Bytes}
    (hReply : fs.reply refusals (.read (root.below names)) = .ok content) :
    fs'.reply refusals' (.read (root'.below names)) = .ok content := by
  have hNames := hReaches.proper h.tree
  have hMay := unrefused_of_reply hReply
  have hSeen := h.refused.seen names hNames hMay
  rw [reply_of_unrefused ((h.refused.read hNames).mpr hMay)]
  have hRead := read_of_reply hReply
  show fs'.read (root'.below names) = .ok content
  obtain ⟨front, n, x, rfl, -, hLists, hLists', hEntry, hEntry', hAccepts⟩ :=
    h.exists_entry hHeaders hPassable hReaches
  obtain ⟨hProper, hFits⟩ := fits_of_entry h.tree h.hosts hEntry
  obtain ⟨-, hFits'⟩ := fits_of_entry h.tree' h.hosts' hEntry'
  rw [Path.below_concat] at hRead ⊢
  rw [Location.below_concat] at hEntry hEntry'
  obtain ⟨l₁, mode, hFind⟩ := find_of_read hRead
  have hName := hLists.usable hProper hFits (find_eq_ok_iff.mp hFind).1
  -- the entry is the file itself, since it is no directory and no link
  cases x with
  | directory mode => cases hAccepts.plain
  | link target => exact absurd rfl (hAccepts.noLink hSeen hName)
  | file bytes mode =>
    have hSeat := hLists.opens.seat hProper
    have hSeat' := hLists'.opens.seat hProper
    have hAccepted := (hLists.refusal?_join_iff hProper hFits).mpr hName
    have hAccepted' := (hLists'.refusal?_join_iff hProper hFits').mpr hName
    obtain rfl := Except.ok.inj ((hSeat.read hAccepted hEntry).symm.trans hRead)
    exact hSeat'.read hAccepted' hEntry'

variable {told : Path → Except IoError Bytes}

theorem Reports.missing_eq {files : List Path} {c : CheckOutcome} (h : e.Reports told files c)
    (hOrdered : files.Pairwise fun p q => p.key < q.key) :
    c.missing = files.filter fun p => e.verdict p (told p) = .ok false := by
  refine eq_of_increasing h.increasing (hOrdered.filter _) fun p => ?_
  rw [h.missing, List.mem_filter, decide_eq_true_iff]

theorem Reports.failed_eq {files : List Path} {c : CheckOutcome} (h : e.Reports told files c)
    (hOrdered : files.Pairwise fun p q => p.key < q.key) :
    c.failures.map FileError.path = files.filter fun p => !(told p).isOk := by
  refine eq_of_increasing (List.pairwise_map.mpr h.ordered) (hOrdered.filter _) fun p => ?_
  rw [h.mem_failed_iff, List.mem_filter, Unreadable]
  cases told p <;> simp [Except.isOk, Except.toBool]

/-- Checks of the two roots list the same files, those that lack the marker and those that cannot be
read. -/
theorem Twins.check (h : e.Twins fs refusals root l fs' refusals' root' l')
    (hHeaders : e.headers = r.source) {relative : List (List String)}
    (hReaches : ∀ names ∈ relative, e.Reaches fs refusals root l names)
    (hFiles : (((e.eligible root).refusing refusals).run fs).1 = .ok (relative.map root.below))
    (hFiles' : (((e.eligible root').refusing refusals').run fs').1 =
      .ok (relative.map root'.below))
    (schedule schedule' : List Pool.Event) :
    ∃ (missing failed : List (List String)) (c c' : CheckOutcome),
      ((e.check root schedule).refusing refusals).run fs = (.ok c, fs) ∧
      ((e.check root' schedule').refusing refusals').run fs' = (.ok c', fs') ∧
      c.missing = missing.map root.below ∧ c'.missing = missing.map root'.below ∧
      c.failures.map FileError.path = failed.map root.below ∧
      c'.failures.map FileError.path = failed.map root'.below := by
  obtain ⟨hEnds, hFound⟩ := eligible_reaches e refusals h.tree h.hosts
  obtain ⟨hEnds', hFound'⟩ := eligible_reaches e refusals' h.tree' h.hosts'
  have hPassable := hEnds.mp ⟨_, hFiles⟩
  have hOrdered := (hFound _ hFiles).2
  have hOrdered' := (hFound' _ hFiles').2
  obtain ⟨c, hRun, hReports⟩ := exists_check (hOrdered.imp ne_of_lt) hFiles schedule
  obtain ⟨c', hRun', hReports'⟩ := exists_check (hOrdered'.imp ne_of_lt) hFiles' schedule'
  -- the files are read alike
  have hRead : ∀ names ∈ relative, ∀ content,
      fs'.reply refusals' (.read (root'.below names)) = .ok content ↔
        fs.reply refusals (.read (root.below names)) = .ok content := by
    intro names hIn content
    have hReached := hReaches names hIn
    have hReached' := h.reaches hHeaders hPassable hReached
    exact ⟨h.symm.read hHeaders (h.passable hPassable) hReached',
      h.read hHeaders hPassable hReached⟩
  have hOk : ∀ names ∈ relative,
      (fs'.reply refusals' (.read (root'.below names))).isOk =
        (fs.reply refusals (.read (root.below names))).isOk := by
    intro names hIn
    have hSame := hRead names hIn
    cases hHere : fs.reply refusals (.read (root.below names)) with
    | ok content => rw [(hSame content).mpr hHere]
    | error cause =>
      cases hThere : fs'.reply refusals' (.read (root'.below names)) with
      | error cause' => rfl
      | ok content => cases hHere.symm.trans ((hSame content).mp hThere)
  have hVerdict : ∀ names ∈ relative,
      (e.verdict (root'.below names) (fs'.reply refusals' (.read (root'.below names))) = .ok false ↔
        e.verdict (root.below names) (fs.reply refusals (.read (root.below names))) =
          .ok false) := by
    intro names hIn
    rw [verdict_eq_false_iff, verdict_eq_false_iff]
    exact exists_congr fun content => and_congr_left' (hRead names hIn content)
  refine ⟨relative.filter fun names =>
      e.verdict (root.below names) (fs.reply refusals (.read (root.below names))) = .ok false,
    relative.filter fun names => !(fs.reply refusals (.read (root.below names))).isOk, c, c', hRun,
    hRun', ?_, ?_, ?_, ?_⟩
  · rw [hReports.missing_eq hOrdered, List.filter_map]
    rfl
  · rw [hReports'.missing_eq hOrdered', List.filter_map]
    refine congrArg _ (List.filter_congr fun names hIn => ?_)
    exact decide_eq_decide.mpr (hVerdict names hIn)
  · rw [hReports.failed_eq hOrdered, List.filter_map]
    rfl
  · rw [hReports'.failed_eq hOrdered', List.filter_map]
    refine congrArg _ (List.filter_congr fun names hIn => ?_)
    show (!(fs'.reply refusals' (.read (root'.below names))).isOk) =
      !(fs.reply refusals (.read (root.below names))).isOk
    rw [hOk names hIn]

/-- A root that is left out by its own name is left out with all that it holds, where it may be
looked at. -/
theorem eligible_of_left_out (hTree : fs.WellFormed) (hHosts : fs.Hosts root l)
    (hLeft : e.exclusions.directories.matchesPath root = true)
    (hSeen : refusals (.linkStatus root) = none) :
    (((e.eligible root).refusing refusals).run fs).1 = .ok [] := by
  have hNot : ¬ e.selection.Enters fs refusals root := by
    rw [Selection.enters_iff, answer_descends_iff, hLeft]
    exact Bool.noConfusion
  have hNone : ∀ names, ¬ e.Enters fs refusals root l names :=
    fun names hEnters => hNot (hEnters [] List.nil_prefix).2
  obtain ⟨hEnds, hFound⟩ := eligible_reaches e refusals hTree hHosts
  obtain ⟨files, hFiles⟩ := hEnds.mpr
    ⟨hSeen, fun names hEnters => absurd hEnters (hNone names),
      fun names hEnters => absurd hEnters (hNone names)⟩
  obtain rfl : files = [] := by
    refine List.eq_nil_iff_forall_not_mem.mpr fun p hp => ?_
    obtain ⟨names, -, hReaches⟩ := ((hFound files hFiles).1 p).mp hp
    obtain ⟨front, n, -, hEnters⟩ := hReaches.exists_front hHosts
    exact hNone front hEnters
  exact hFiles

/-- **The place of a tree does not matter, but the name of its root does.** Let the same entries
stand below two roots, be it in one file system or in two, both of them real directories, and let no
path below either reach the limit of the system. The disk may refuse calls, if it refuses the same
ones below both roots. A root whose own name is left out has no eligible files. If neither is, the
walks for the eligible files fail both or neither; where they end well, they find the same files by
their paths from the root, in the same order, and checks list the same ones, with any number of
workers and under every schedule. -/
theorem audit_relocates (hTree : fs.WellFormed) (hTree' : fs'.WellFormed)
    (hHeaders : e.headers = r.source) (hHosts : fs.Hosts root l) (hHosts' : fs'.Hosts root' l')
    (hSame : SameBelow fs fs' l l') (hRefused : RefusedAlike refusals refusals' root root') :
    (e.exclusions.directories.matchesPath root = true → refusals (.linkStatus root) = none →
      (((e.eligible root).refusing refusals).run fs).1 = .ok []) ∧
    (e.exclusions.directories.matchesPath root = false →
      e.exclusions.directories.matchesPath root' = false →
      ((∃ failure, (((e.eligible root).refusing refusals).run fs).1 = .error failure) ∧
        ∃ failure, (((e.eligible root').refusing refusals').run fs').1 = .error failure) ∨
      ∃ relative : List (List String),
        (((e.eligible root).refusing refusals).run fs).1 = .ok (relative.map root.below) ∧
        (((e.eligible root').refusing refusals').run fs').1 = .ok (relative.map root'.below) ∧
        ∀ schedule schedule', ∃ (missing failed : List (List String)) (c c' : CheckOutcome),
          ((e.check root schedule).refusing refusals).run fs = (.ok c, fs) ∧
          ((e.check root' schedule').refusing refusals').run fs' = (.ok c', fs') ∧
          c.missing = missing.map root.below ∧ c'.missing = missing.map root'.below ∧
          c.failures.map FileError.path = failed.map root.below ∧
          c'.failures.map FileError.path = failed.map root'.below) := by
  refine ⟨eligible_of_left_out hTree hHosts, fun hKept hKept' => ?_⟩
  have hTwins : e.Twins fs refusals root l fs' refusals' root' l' :=
    ⟨hTree, hTree', hHosts, hHosts', hSame, hRefused, hKept, hKept'⟩
  cases hFiles : (((e.eligible root).refusing refusals).run fs).1 with
  | ok files =>
    obtain ⟨relative, rfl, hReaches, hFiles'⟩ := hTwins.eligible hHeaders hFiles
    exact Or.inr ⟨relative, rfl, hFiles', hTwins.check hHeaders hReaches hFiles hFiles'⟩
  | error failure =>
    refine Or.inl ⟨⟨failure, rfl⟩, ?_⟩
    cases hFiles' : (((e.eligible root').refusing refusals').run fs').1 with
    | error failure' => exact ⟨failure', rfl⟩
    | ok files' =>
      obtain ⟨relative, -, -, hThere⟩ := hTwins.symm.eligible hHeaders hFiles'
      cases hFiles.symm.trans hThere

-- ---------------------------------------------------------------------------
-- A file in two directories
-- ---------------------------------------------------------------------------

/-- The same file stands in two directories, one of which has a name that is left out. -/
def besideLib : FileSystem :=
  ⟨[(["a.rs", "lib"], .file [0x41] 0o644), (["lib"], .directory 0o755),
    (["a.rs", "ok"], .file [0x41] 0o644), (["ok"], .directory 0o755)], []⟩

/-- The engine that looks for a letter, with the built-in exclusions. -/
def builtinEngine : Engine := { letterEngine with exclusions := .builtin }

theorem lookup?_besideLib {n : String} {dir : Location} {x : Entry}
    (h : besideLib.lookup? (n :: dir) = some x) :
    (n = "a.rs" ∧ (dir = ["lib"] ∨ dir = ["ok"])) ∨ ((n = "lib" ∨ n = "ok") ∧ dir = []) := by
  rw [lookup?, if_neg (List.cons_ne_nil n dir)] at h
  have hMem := mem_of_lookup h
  simp only [besideLib, List.mem_cons, Prod.mk.injEq, List.cons.injEq, List.not_mem_nil,
    or_false] at hMem
  tauto

theorem wellFormed_besideLib : besideLib.WellFormed :=
  .of_entries (by decide) (by decide)

/-- Only the file stands below either directory. -/
theorem names_besideLib {d : String} {names : List String} {x : Entry}
    (h : besideLib.lookup? (Location.below [d] names) = some x) :
    names = [] ∨ names = ["a.rs"] := by
  rcases List.eq_nil_or_concat names with rfl | ⟨front, n, rfl⟩
  · exact Or.inl rfl
  · rw [List.concat_eq_append, Location.below_concat] at h
    rw [List.concat_eq_append]
    right
    rcases lookup?_besideLib h with ⟨rfl, hPlace⟩ | ⟨-, hPlace⟩
    · have hLength : (Location.below [d] front).length = 1 := by
        rcases hPlace with hPlace | hPlace <;> exact congrArg List.length hPlace
      have hFront : front = [] := by simpa [Location.below] using hLength
      rw [hFront]
      rfl
    · have hLength := congrArg List.length hPlace
      simp [Location.below] at hLength

theorem hosts_besideLib {d : String} {p : Path} (hLocated : besideLib.locate false p = .ok [d])
    (hDir : besideLib.isDirectory [d] = true)
    (hFits : (p.join ⟨"a.rs"⟩).text.utf8ByteSize < pathLimit) : besideLib.Hosts p [d] where
  located := hLocated
  directory := hDir
  fits := by
    intro names x hEntry
    have hProper : ProperName "a.rs" :=
      ⟨by decide, by decide, by decide, by decide⟩
    rcases names_besideLib hEntry with rfl | rfl
    · exact (p.size_join hProper).trans hFits
    · exact hFits

theorem sameBelow_besideLib : SameBelow besideLib besideLib ["lib"] ["ok"] := by
  intro n names
  by_cases hFile : n :: names = ["a.rs"]
  · rw [hFile]
    rfl
  · have hNone : ∀ d, besideLib.lookup? (Location.below [d] (n :: names)) = none := by
      intro d
      by_contra hSome
      obtain ⟨x, hEntry⟩ := Option.ne_none_iff_exists'.mp hSome
      exact (names_besideLib hEntry).elim (List.cons_ne_nil n names) hFile
    rw [hNone, hNone]

/-- The files of that name may be looked at, but not be read. -/
def sealedSources (c : Call) : Option IoError :=
  match c with
  | .read p => if p.fileName? = some "a.rs" then some (.system 13) else none
  | _ => none

/-- The file in the directory that is not left out is found, where only reading may be refused. -/
theorem eligible_besideLib (refusals : Call → Option IoError) {p : Path}
    (hHosts : besideLib.Hosts p ["ok"])
    (hKept : builtinEngine.exclusions.directories.matchesPath p = false)
    (hLooks : ∀ q, refusals (.linkStatus q) = none ∧ refusals (.list q) = none) :
    ∃ files, (((builtinEngine.eligible p).refusing refusals).run besideLib).1 = .ok files ∧
      p.join ⟨"a.rs"⟩ ∈ files := by
  obtain ⟨hEnds, hFound⟩ :=
    eligible_reaches builtinEngine refusals wellFormed_besideLib hHosts
  have hRoot : builtinEngine.Enters besideLib refusals p ["ok"] [] := by
    rw [Engine.enters_iff wellFormed_besideLib hKept]
    refine ⟨fun front hFront => ?_, fun n hMem => absurd hMem List.not_mem_nil⟩
    rw [List.prefix_nil.mp hFront]
    rfl
  obtain ⟨files, hFiles⟩ := hEnds.mpr (by
    refine ⟨(hLooks p).1, fun names _ => (hLooks _).2, fun names hEnters n hMem => ?_⟩
    obtain ⟨mode, hEntry⟩ := exists_directory hEnters.directory
    rcases names_besideLib hEntry with rfl | rfl
    · cases hMem
    · cases hEntry)
  refine ⟨files, hFiles, ((hFound files hFiles).1 _).mpr ⟨["a.rs"], rfl, ?_⟩⟩
  have hHeaders : builtinEngine.headers = (⟨"L", [], []⟩ : Registry).source := rfl
  have hHere : besideLib.Lists (p.below []) (Location.below ["ok"] []) := lists_root hHosts
  refine (reaches_concat_iff wellFormed_besideLib hHosts hHeaders hHere).mpr
    ⟨hRoot, .file [0x41] 0o644, rfl, ?_⟩
  exact ⟨rfl, by decide, fun _ _ => by decide, by decide⟩

-- ---------------------------------------------------------------------------
-- What shows of a root
-- ---------------------------------------------------------------------------

/-- The working directory, written with steps that stay there. -/
def dots : Nat → Path
  | 0 => ⟨"."⟩
  | count + 1 => ⟨(dots count).text ++ "/."⟩

theorem toList_dots (count : Nat) :
    (dots (count + 1)).text.toList = (dots count).text.toList ++ ['/', '.'] := by
  rw [dots, String.toList_append]
  rfl

theorem size_dots (count : Nat) : (dots count).text.utf8ByteSize = 2 * count + 1 := by
  induction count with
  | zero => decide
  | succ count ih =>
    have hStep : ("/." : String).utf8ByteSize = 2 := by decide
    rw [dots, String.utf8ByteSize_append, ih, hStep]
    omega

theorem steps_dots (count : Nat) : (dots count).steps = List.replicate (count + 1) "." := by
  induction count with
  | zero => decide
  | succ count ih =>
    have hLast : Path.stepsOf (Text.pieces '/' ['.']) = ["."] := by decide
    rw [Path.steps_eq, Path.textPieces] at ih ⊢
    rw [toList_dots, Text.pieces_append_sep, Path.stepsOf_append, ih, hLast,
      ← List.replicate_succ']

theorem mem_dots {count : Nat} {c : Char} (h : c ∈ (dots count).text.toList) :
    c = '.' ∨ c = '/' := by
  induction count with
  | zero => exact Or.inl (List.mem_singleton.mp h)
  | succ count ih =>
    rw [toList_dots, List.mem_append] at h
    rcases h with hFront | hLast
    · exact ih hFront
    · simpa [or_comm] using hLast

theorem getLast?_dots (count : Nat) : (dots count).text.toList.getLast? = some '.' := by
  cases count with
  | zero => rfl
  | succ count => rw [toList_dots, List.getLast?_append_of_ne_nil _ (by simp)]; rfl

theorem head?_dots (count : Nat) : (dots count).text.toList.head? = some '.' := by
  induction count with
  | zero => rfl
  | succ count ih => rw [toList_dots, List.head?_append, ih]; rfl

theorem walkWithin_dots {fs : FileSystem} {here : Location} (hDir : fs.isDirectory here = true)
    (k count : Nat) : fs.walkWithin false k here (List.replicate count ".") = .ok here := by
  induction count with
  | zero => exact walkWithin_nil fs false k here
  | succ count ih =>
    rw [List.replicate_succ, walkWithin_cons]
    simp [hDir, ih]

theorem isEmpty_dots (count : Nat) : (dots count).text.isEmpty = false := by
  have hSize := size_dots count
  rw [Bool.eq_false_iff]
  intro hEmpty
  rw [String.isEmpty_iff.mp hEmpty] at hSize
  simp at hSize

theorem locate_dots {count : Nat} (hFits : 2 * count + 1 < pathLimit) :
    besideLib.locate false (dots count) = .ok [] := by
  refine locate_eq_ok_iff.mpr ⟨?_, ?_⟩
  · have hSize := size_dots count
    have hNoZero : (dots count).text.toList.contains '\x00' = false := by
      rw [Bool.eq_false_iff, Ne, List.contains_iff_mem]
      intro hMem
      rcases mem_dots hMem with h | h <;> cases h
    rw [checkText, hNoZero, isEmpty_dots, if_neg Bool.false_ne_true, if_neg Bool.false_ne_true,
      hSize, if_neg (Nat.not_le.mpr hFits)]
  · have hEnd : (dots count).endsWithSeparator = false := by
      rw [Path.endsWithSeparator, getLast?_dots]
      rfl
    have hStart : besideLib.start (dots count) = [] := by
      rw [start, Path.isAbsolute, head?_dots]
      rfl
    rw [Path.fullSteps, hEnd, steps_dots, hStart]
    simp only [Bool.false_eq_true, if_false, List.append_nil]
    exact walkWithin_dots rfl _ _

/-- A path in the working directory that is written with so many steps is not listed. -/
theorem list_dots : ∃ cause, besideLib.list ((dots 2046).join ⟨"ok"⟩) = .error cause := by
  refine exists_list_error ?_
  have hText : (dots 2046).join ⟨"ok"⟩ = ⟨(dots 2046).text ++ "/" ++ "ok"⟩ := by
    rw [Path.join, getLast?_dots, isEmpty_dots]
    rfl
  have hBehind : ("/" : String).utf8ByteSize = 1 ∧ ("ok" : String).utf8ByteSize = 2 := by
    decide
  rw [hText, String.utf8ByteSize_append, String.utf8ByteSize_append, size_dots, hBehind.1,
    hBehind.2]
  decide

theorem isDirectory_besideLib {names : List String}
    (h : besideLib.isDirectory (Location.below [] names) = true) :
    names = [] ∨ names = ["lib"] ∨ names = ["ok"] := by
  obtain ⟨mode, hEntry⟩ := exists_directory h
  rcases List.eq_nil_or_concat names with rfl | ⟨front, n, rfl⟩
  · exact Or.inl rfl
  · rw [List.concat_eq_append, Location.below_concat] at hEntry
    rw [List.concat_eq_append]
    rcases lookup?_besideLib hEntry with ⟨rfl, hPlace⟩ | ⟨hName, hPlace⟩
    · rcases hPlace with hPlace | hPlace <;> rw [hPlace] at hEntry <;> cases hEntry
    · obtain rfl : front = [] := by simpa [Location.below] using hPlace
      rcases hName with rfl | rfl <;> simp

theorem matchesPath_letterEngine (p : Path) :
    letterEngine.exclusions.directories.matchesPath p = false := by
  unfold NamePatterns.matchesPath
  cases p.fileName? <;> rfl

theorem enters_letterEngine (root : Path) {names : List String}
    (hDirs : ∀ front, front <+: names → besideLib.isDirectory (Location.below [] front) = true) :
    letterEngine.Enters besideLib refusals root [] names :=
  (Engine.enters_iff wellFormed_besideLib (matchesPath_letterEngine root)).mpr
    ⟨hDirs, fun _ _ => rfl⟩

/-- From the working directory the walk ends well. -/
theorem exists_eligible_here :
    ∃ files, ((letterEngine.eligible ⟨"."⟩).run besideLib).1 = .ok files := by
  have hHosts : besideLib.Hosts ⟨"."⟩ [] := by
    refine ⟨rfl, rfl, fun names x hEntry => ?_⟩
    rcases List.eq_nil_or_concat names with rfl | ⟨front, n, rfl⟩
    · decide
    · rw [List.concat_eq_append] at hEntry ⊢
      rw [Location.below_concat] at hEntry
      have hDir : besideLib.isDirectory (Location.below [] front) = true := by
        rcases lookup?_besideLib hEntry with ⟨-, hPlace | hPlace⟩ | ⟨-, hPlace⟩ <;>
          · rw [hPlace]
            rfl
      rcases isDirectory_besideLib hDir with rfl | rfl | rfl <;>
        rcases lookup?_besideLib hEntry with ⟨rfl, -⟩ | ⟨rfl | rfl, -⟩ <;> decide
  rw [← Program.refusing_none (letterEngine.eligible _)]
  refine (eligible_reaches _ _ wellFormed_besideLib hHosts).1.mpr
    ⟨rfl, fun _ _ => rfl, fun names hEnters n hMem => ?_⟩
  rcases isDirectory_besideLib hEnters.directory with rfl | rfl | rfl
  · cases hMem
  all_goals
    rw [List.mem_singleton.mp hMem]
    exact ⟨by decide, by decide⟩

/-- Written with so many steps, the working directory is a root from which the walk fails. -/
theorem exists_failure_dots :
    ∃ failure, ((letterEngine.eligible (dots 2046)).run besideLib).1 = .error failure := by
  have hLocated : besideLib.locate false (dots 2046) = .ok [] := locate_dots (by decide)
  have hStatus : besideLib.linkStatus (dots 2046) = .ok ⟨.directory, 0o755⟩ :=
    linkStatus_eq hLocated rfl
  rw [← Program.refusing_none (letterEngine.eligible _), run_eligible]
  obtain ⟨cause, failure, -, hAnswer⟩ | ⟨-, l, hThere, ⟨found, hAnswer, hExplored⟩ |
      ⟨failure, names, hAnswer, -⟩⟩ :=
    walk_cases wellFormed_besideLib letterEngine.selection (fun _ => none)
      (noLink_of_directory hStatus)
  · exact ⟨failure, hAnswer⟩
  · -- a walk that ends well lists the directory
    obtain rfl := Except.ok.inj (hLocated.symm.trans hThere)
    obtain ⟨entries, hList⟩ := hExplored.listed ["ok"] (enters_letterEngine _ (by
      intro front hFront
      rcases List.prefix_cons_iff.mp hFront with rfl | ⟨rest, rfl, hRest⟩
      · rfl
      · rw [List.prefix_nil.mp hRest]
        rfl))
    obtain ⟨cause, hRefused⟩ : ∃ cause, besideLib.reply (fun _ => none)
        (.list ((dots 2046).join ⟨"ok"⟩)) = .error cause := by
      obtain ⟨cause, hRefused⟩ := list_dots
      exact exists_reply_list_error hRefused
    rw [Path.below_cons, Path.below_nil, hRefused] at hList
    cases hList
  · exact ⟨failure, hAnswer⟩

/-- The same file is found below the one root and not below the other, which has a name that is left
out; and the same directory is walked under its short path and not under a long one. -/
theorem eligible_depends_on_root :
    besideLib.Hosts ⟨"lib"⟩ ["lib"] ∧ besideLib.Hosts ⟨"ok"⟩ ["ok"] ∧
    SameBelow besideLib besideLib ["lib"] ["ok"] ∧
    ((builtinEngine.eligible ⟨"lib"⟩).run besideLib).1 = .ok [] ∧
    (∃ files, ((builtinEngine.eligible ⟨"ok"⟩).run besideLib).1 = .ok files ∧
      ⟨"ok/a.rs"⟩ ∈ files) ∧
    besideLib.locate false ⟨"."⟩ = .ok [] ∧ besideLib.locate false (dots 2046) = .ok [] ∧
    (∃ files, ((letterEngine.eligible ⟨"."⟩).run besideLib).1 = .ok files) ∧
    ∃ failure, ((letterEngine.eligible (dots 2046)).run besideLib).1 = .error failure := by
  have hLib : besideLib.Hosts ⟨"lib"⟩ ["lib"] := hosts_besideLib rfl rfl (by decide)
  have hOk : besideLib.Hosts ⟨"ok"⟩ ["ok"] := hosts_besideLib rfl rfl (by decide)
  have hLeft : builtinEngine.exclusions.directories.matchesPath ⟨"lib"⟩ = true := by
    decide
  have hKept : builtinEngine.exclusions.directories.matchesPath ⟨"ok"⟩ = false := by
    decide
  have hJoin : (⟨"ok"⟩ : Path).join ⟨"a.rs"⟩ = ⟨"ok/a.rs"⟩ := by decide
  have hNothing : (((builtinEngine.eligible ⟨"lib"⟩).refusing fun _ => none).run besideLib).1 =
      .ok [] := eligible_of_left_out wellFormed_besideLib hLib hLeft rfl
  have hFound := eligible_besideLib (fun _ => none) hOk hKept fun _ => ⟨rfl, rfl⟩
  rw [Program.refusing_none] at hNothing hFound
  exact ⟨hLib, hOk, sameBelow_besideLib, hNothing, hJoin ▸ hFound, rfl, locate_dots (by decide),
    exists_eligible_here, exists_failure_dots⟩

/-- Files are sealed alike below two roots of one name. -/
theorem refusedAlike_sealedSources {root root' : Path} (h : root'.fileName? = root.fileName?) :
    RefusedAlike sealedSources sealedSources root root' := by
  refine ⟨fun names _ _ => rfl, fun look hLook names hProper => ?_⟩
  have hName : (root'.below names).fileName? = (root.below names).fileName? := by
    rcases List.eq_nil_or_concat names with rfl | ⟨front, n, rfl⟩
    · exact h
    · have hLast : ProperName n := hProper n (by simp)
      rw [List.concat_eq_append, Path.below_concat, Path.below_concat,
        Path.fileName?_join _ hLast, Path.fileName?_join _ hLast]
  simp only [List.mem_cons, List.not_mem_nil, or_false] at hLook
  rcases hLook with rfl | rfl | rfl
  · exact Iff.rfl
  · exact Iff.rfl
  · simp only [sealedSources, hName]

/-- A root below a directory that is left out is audited like the same directory under a shorter
path. A file that may not be read is listed as failed below both. -/
theorem audit_relocates_out_of_lib :
    ∃ (relative missing failed : List (List String)) (c c' : CheckOutcome),
      (((builtinEngine.eligible ⟨"ok"⟩).refusing sealedSources).run besideLib).1 =
        .ok (relative.map (Path.mk "ok").below) ∧
      (((builtinEngine.eligible ⟨"./lib/../ok/"⟩).refusing sealedSources).run besideLib).1 =
        .ok (relative.map (Path.mk "./lib/../ok/").below) ∧
      (((builtinEngine.check ⟨"ok"⟩ []).refusing sealedSources).run besideLib).1 = .ok c ∧
      (((builtinEngine.check ⟨"./lib/../ok/"⟩ []).refusing sealedSources).run besideLib).1 =
        .ok c' ∧
      c.missing = missing.map (Path.mk "ok").below ∧
      c'.missing = missing.map (Path.mk "./lib/../ok/").below ∧
      c.failures.map FileError.path = failed.map (Path.mk "ok").below ∧
      c'.failures.map FileError.path = failed.map (Path.mk "./lib/../ok/").below ∧
      ⟨"ok/a.rs"⟩ ∈ c.failures.map FileError.path := by
  have hHeaders : builtinEngine.headers = (⟨"L", [], []⟩ : Registry).source := rfl
  have hHosts : besideLib.Hosts ⟨"ok"⟩ ["ok"] := hosts_besideLib rfl rfl (by decide)
  have hHosts' : besideLib.Hosts ⟨"./lib/../ok/"⟩ ["ok"] :=
    hosts_besideLib rfl rfl (by decide)
  have hKept : builtinEngine.exclusions.directories.matchesPath ⟨"ok"⟩ = false := by
    decide
  have hJoin : (⟨"ok"⟩ : Path).join ⟨"a.rs"⟩ = ⟨"ok/a.rs"⟩ := by decide
  obtain ⟨files, hFiles, hMem⟩ :=
    eligible_besideLib sealedSources hHosts hKept fun _ => ⟨rfl, rfl⟩
  rw [hJoin] at hMem
  rcases (audit_relocates wellFormed_besideLib wellFormed_besideLib hHeaders hHosts hHosts'
    (fun n names => rfl) (refusedAlike_sealedSources (by decide))).2 hKept (by decide) with
    ⟨⟨failure, hFails⟩, -⟩ | ⟨relative, hHere, hThere, hChecks⟩
  · cases hFiles.symm.trans hFails
  · obtain rfl := Except.ok.inj (hFiles.symm.trans hHere)
    obtain ⟨missing, failed, c, c', hRun, hRun', hMissing, hMissing', hFailed, hFailed'⟩ :=
      hChecks [] []
    refine ⟨relative, missing, failed, c, c', hHere, hThere, congrArg Prod.fst hRun,
      congrArg Prod.fst hRun', hMissing, hMissing', hFailed, hFailed', ?_⟩
    obtain ⟨c₁, hRun₁, hReports⟩ :=
      exists_check (eligible_differ wellFormed_besideLib hFiles) hFiles []
    obtain rfl : c₁ = c := Except.ok.inj (congrArg Prod.fst (hRun₁.symm.trans hRun))
    have hUnreadable : besideLib.reply sealedSources (.read ⟨"ok/a.rs"⟩) =
        .error (.system 13) := by decide
    exact hReports.mem_failed_iff.mpr ⟨hMem, _, hUnreadable⟩

end Engine

end LicenseAudit
