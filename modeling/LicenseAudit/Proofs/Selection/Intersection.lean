import LicenseAudit.Proofs.Selection.Root
import LicenseAudit.Proofs.Success

/-!
# Walks with several selections

A selection that accepts what two others both accept keeps out of every directory that one of them
keeps out of. Its walk is pruned at all of these places at once, and still finds what the two walks
have in common: a file that both of them reach is reached through directories that both enter.

* `Selection.Common` — a selection that accepts what two others both accept;
* `Walk.Shared` — the paths that two walks have in common;
* `Walk.Agree` — two selections that accept the same.

## Results

* `inside_shared` — the walk inside a directory finds what the two walks there both find.
* `walk_shared` — the same of a whole walk, from any root and on any disk.
* `answer_walk_congr` — selections that accept the same are walked alike.
-/

namespace LicenseAudit

variable {reply : (c : Call) → c.Reply} {s s₁ s₂ : Selection}

/-- The first selection accepts what the other two both accept. -/
structure Selection.Common (reply : (c : Call) → c.Reply) (s s₁ s₂ : Selection) : Prop where
  descends : ∀ p, (s.descends p).answer reply = true ↔
    (s₁.descends p).answer reply = true ∧ (s₂.descends p).answer reply = true
  includes : ∀ p, (s.includes p).answer reply = true ↔
    (s₁.includes p).answer reply = true ∧ (s₂.includes p).answer reply = true

namespace Walk

variable {root dir : Path} {found found₁ found₂ more more₁ more₂ : List Path}

-- ---------------------------------------------------------------------------
-- Paths in common
-- ---------------------------------------------------------------------------

/-- The first paths are those that the other two have in common. -/
def Shared (found found₁ found₂ : List Path) : Prop :=
  ∀ p, p ∈ found ↔ p ∈ found₁ ∧ p ∈ found₂

/-- Parts that are found at different places are shared one by one. -/
theorem Shared.append (h : Shared found found₁ found₂) (hMore : Shared more more₁ more₂)
    (hApart : ∀ p ∈ found₁, p ∉ more₂) (hApart' : ∀ p ∈ found₂, p ∉ more₁) :
    Shared (found ++ more) (found₁ ++ more₁) (found₂ ++ more₂) := by
  intro p
  rw [List.mem_append, List.mem_append, List.mem_append, h p, hMore p]
  constructor
  · rintro (⟨h₁, h₂⟩ | ⟨h₁, h₂⟩)
    · exact ⟨Or.inl h₁, Or.inl h₂⟩
    · exact ⟨Or.inr h₁, Or.inr h₂⟩
  · rintro ⟨h₁ | h₁, h₂ | h₂⟩
    · exact Or.inl ⟨h₁, h₂⟩
    · exact absurd h₂ (hApart p h₁)
    · exact absurd h₁ (hApart' p h₂)
    · exact Or.inr ⟨h₁, h₂⟩

theorem Shared.flatMap {α : Type} {entries : List α} {part part₁ part₂ : α → List Path}
    (h : ∀ entry ∈ entries, Shared (part entry) (part₁ entry) (part₂ entry))
    (hApart : ∀ entry ∈ entries, ∀ other ∈ entries, ∀ p ∈ part₁ entry, p ∈ part₂ other →
      entry = other) :
    Shared (entries.flatMap part) (entries.flatMap part₁) (entries.flatMap part₂) := by
  intro p
  simp only [List.mem_flatMap]
  constructor
  · rintro ⟨entry, hMem, hFound⟩
    obtain ⟨h₁, h₂⟩ := (h entry hMem p).mp hFound
    exact ⟨⟨entry, hMem, h₁⟩, entry, hMem, h₂⟩
  · rintro ⟨⟨entry, hMem, h₁⟩, other, hOther, h₂⟩
    obtain rfl := hApart entry hMem other hOther p h₁ h₂
    exact ⟨entry, hMem, (h entry hMem p).mpr ⟨h₁, h₂⟩⟩

/-- A path that may be reported is reported by all three or not by one of the two. -/
theorem shared_report {p : Path} (h : s.Common reply s₁ s₂) :
    Shared (if (s.includes p).answer reply then [p] else [])
      (if (s₁.includes p).answer reply then [p] else [])
      (if (s₂.includes p).answer reply then [p] else []) := by
  intro q
  have hIncludes := h.includes p
  by_cases h₁ : (s₁.includes p).answer reply = true
  · by_cases h₂ : (s₂.includes p).answer reply = true
    · simp [hIncludes.mpr ⟨h₁, h₂⟩, h₁, h₂]
    · simp [mt hIncludes.mp fun hBoth => h₂ hBoth.2, h₁, h₂]
  · simp [mt hIncludes.mp fun hBoth => h₁ hBoth.1, h₁]

/-- A directory that one of the two keeps out of is kept out of. -/
theorem shared_entered {answer answer₁ answer₂ : Answer} {p : Path} (h : s.Common reply s₁ s₂)
    (hFound : (if (s.descends p).answer reply then answer else .ok []) = .ok found)
    (hFound₁ : (if (s₁.descends p).answer reply then answer₁ else .ok []) = .ok found₁)
    (hFound₂ : (if (s₂.descends p).answer reply then answer₂ else .ok []) = .ok found₂)
    (hShared : answer = .ok found → answer₁ = .ok found₁ → answer₂ = .ok found₂ →
      Shared found found₁ found₂) : Shared found found₁ found₂ := by
  have hDescends := h.descends p
  by_cases h₁ : (s₁.descends p).answer reply = true
  · by_cases h₂ : (s₂.descends p).answer reply = true
    · rw [if_pos (hDescends.mpr ⟨h₁, h₂⟩)] at hFound
      rw [if_pos h₁] at hFound₁
      rw [if_pos h₂] at hFound₂
      exact hShared hFound hFound₁ hFound₂
    · rw [if_neg (mt hDescends.mp fun hBoth => h₂ hBoth.2)] at hFound
      rw [if_neg h₂] at hFound₂
      cases hFound
      cases hFound₂
      exact fun p => by simp
  · rw [if_neg (mt hDescends.mp fun hBoth => h₁ hBoth.1)] at hFound
    rw [if_neg h₁] at hFound₁
    cases hFound
    cases hFound₁
    exact fun p => by simp

-- ---------------------------------------------------------------------------
-- Walks with two selections
-- ---------------------------------------------------------------------------

/-- A walk inside a directory finds what the walks with the two other selections both find. -/
theorem inside_shared (hLists : ListsInOrder reply) (h : s.Common reply s₁ s₂) {depth : Nat}
    (hFound : (inside s depth dir).answer reply = .ok found)
    (hFound₁ : (inside s₁ depth dir).answer reply = .ok found₁)
    (hFound₂ : (inside s₂ depth dir).answer reply = .ok found₂) :
    Shared found found₁ found₂ := by
  induction depth generalizing dir found found₁ found₂ with
  | zero => cases hFound
  | succ depth ih =>
    rw [inside, Program.answer_bind, Program.answer_list] at hFound hFound₁ hFound₂
    cases hList : reply (.list dir) with
    | error cause =>
      rw [hList] at hFound
      cases hFound
    | ok entries =>
      rw [hList] at hFound hFound₁ hFound₂
      obtain ⟨part, hVisits, rfl⟩ := exists_parts hFound
      obtain ⟨part₁, hVisits₁, rfl⟩ := exists_parts hFound₁
      obtain ⟨part₂, hVisits₂, rfl⟩ := exists_parts hFound₂
      obtain ⟨hIncreasing, hNames⟩ := hLists dir entries hList
      have hVisit := fun entry hMem =>
        (answer_entry reply depth _ _).symm.trans (hVisits entry hMem)
      have hVisit₁ := fun entry hMem =>
        (answer_entry reply depth _ _).symm.trans (hVisits₁ entry hMem)
      have hVisit₂ := fun entry hMem =>
        (answer_entry reply depth _ _).symm.trans (hVisits₂ entry hMem)
      refine Shared.flatMap (fun entry hMem => ?_) fun entry hMem other hOther p hp hp' => ?_
      · replace hVisit := hVisit entry hMem
        replace hVisit₁ := hVisit₁ entry hMem
        replace hVisit₂ := hVisit₂ entry hMem
        by_cases hKind : entry.2 = .directory
        · rw [if_pos hKind] at hVisit hVisit₁ hVisit₂
          exact shared_entered h hVisit hVisit₁ hVisit₂ ih
        · rw [if_neg hKind] at hVisit hVisit₁ hVisit₂
          rw [← Except.ok.inj hVisit, ← Except.ok.inj hVisit₁, ← Except.ok.inj hVisit₂]
          exact shared_report h
      · -- what is found at an entry begins with its name, and no two entries have one name
        obtain ⟨-, names, rfl, hProper⟩ :=
          (entry_ordered (inside_ordered hLists) (hVisit₁ entry hMem)).1 p hp
        obtain ⟨-, names', hSame, hProper'⟩ :=
          (entry_ordered (inside_ordered hLists) (hVisit₂ other hOther)).1 _ hp'
        have hBelow : dir.below (entry.1 :: names) = dir.below (other.1 :: names') := hSame
        have hName := Path.below_inj (List.forall_mem_cons.mpr ⟨hNames entry hMem, hProper⟩)
          (List.forall_mem_cons.mpr ⟨hNames other hOther, hProper'⟩) hBelow
        refine List.inj_on_of_nodup_map ?_ hMem hOther (List.cons.inj hName).1
        exact List.pairwise_map.mpr (hIncreasing.imp ne_of_lt)

/-- What is reported of a directory is not found inside. -/
theorem not_mem_inside (hLists : ListsInOrder reply) {depth : Nat} {p : Path}
    (hFound : (inside s depth dir).answer reply = .ok found)
    (hReport : p ∈ if (s₁.includes dir).answer reply then [dir] else []) : p ∉ found := by
  obtain rfl : p = dir := by
    split_ifs at hReport
    · exact List.mem_singleton.mp hReport
    · exact absurd hReport List.not_mem_nil
  intro hMem
  obtain ⟨-, n, names, hBelow, hProper⟩ := (inside_ordered hLists hFound).1 p hMem
  have hLess : p.key < (p.below (n :: names)).key := Path.key_lt_below hProper
  rw [← hBelow] at hLess
  exact lt_irrefl _ hLess

/-- A walk from a root finds what the walks with the two other selections both find. -/
theorem fromRoot_shared (hLists : ListsInOrder reply) (h : s.Common reply s₁ s₂)
    (hFound : (fromRoot root s).answer reply = .ok found)
    (hFound₁ : (fromRoot root s₁).answer reply = .ok found₁)
    (hFound₂ : (fromRoot root s₂).answer reply = .ok found₂) :
    Shared found found₁ found₂ := by
  cases hStatus : reply (.linkStatus root) with
  | error cause =>
    rw [fromRoot, Program.answer_bind, Program.answer_linkStatus, hStatus] at hFound
    cases hFound
  | ok status =>
    cases hKind : status.kind with
    | directory =>
      rw [answer_fromRoot_directory hStatus hKind] at hFound hFound₁ hFound₂
      exact shared_entered h hFound hFound₁ hFound₂ (inside_shared hLists h)
    | file =>
      rw [answer_fromRoot_file hStatus hKind] at hFound hFound₁ hFound₂
      rw [← Except.ok.inj hFound, ← Except.ok.inj hFound₁, ← Except.ok.inj hFound₂]
      exact shared_report h
    | link =>
      cases hTarget : reply (.status root) with
      | error cause =>
        rw [fromRoot, Program.answer_bind, Program.answer_linkStatus, hStatus] at hFound
        simp only [hKind, Program.answer_bind, Program.answer_status, hTarget] at hFound
        cases hFound
      | ok target =>
        by_cases hDirectory : target.kind = .directory
        · rw [answer_fromRoot_link hStatus hKind hTarget hDirectory] at hFound hFound₁ hFound₂
          obtain ⟨below, hBelow, rfl⟩ := map_eq_ok_iff.mp hFound
          obtain ⟨below₁, hBelow₁, rfl⟩ := map_eq_ok_iff.mp hFound₁
          obtain ⟨below₂, hBelow₂, rfl⟩ := map_eq_ok_iff.mp hFound₂
          exact (shared_report h).append (inside_shared hLists h hBelow hBelow₁ hBelow₂)
            (fun p => not_mem_inside hLists hBelow₂) (fun p => not_mem_inside hLists hBelow₁)
        · rw [answer_fromRoot_link_file hStatus hKind hTarget hDirectory]
            at hFound hFound₁ hFound₂
          rw [← Except.ok.inj hFound, ← Except.ok.inj hFound₁, ← Except.ok.inj hFound₂]
          exact shared_report h

end Walk

/-- **Walks with two selections.** A selection that accepts what two others both accept finds, in
the same order, what the walks with the two others both find, if all three walks end well. -/
theorem walk_shared {root : Path} {found found₁ found₂ : List Path}
    (hLists : Walk.ListsInOrder reply) (h : s.Common reply s₁ s₂)
    (hFound : (walk root s).answer reply = .ok found)
    (hFound₁ : (walk root s₁).answer reply = .ok found₁)
    (hFound₂ : (walk root s₂).answer reply = .ok found₂) :
    found = found₁.filter fun p => p ∈ found₂ := by
  have hShared := Walk.fromRoot_shared hLists h (answer_walk_eq_ok_iff.mp hFound)
    (answer_walk_eq_ok_iff.mp hFound₁) (answer_walk_eq_ok_iff.mp hFound₂)
  refine eq_of_increasing (walk_ordered hLists hFound).2
    ((walk_ordered hLists hFound₁).2.filter _) fun p => ?_
  rw [hShared p, List.mem_filter, decide_eq_true_eq]

namespace Walk

/-- Two selections accept the same. -/
structure Agree (reply : (c : Call) → c.Reply) (s s₁ : Selection) : Prop where
  descends : ∀ p, (s₁.descends p).answer reply = (s.descends p).answer reply
  includes : ∀ p, (s₁.includes p).answer reply = (s.includes p).answer reply

/-- A selection accepts the same as another one if it accepts what that one and that one accept. -/
theorem agree_of_common (h : s₁.Common reply s s) : Agree reply s s₁ where
  descends p := by rw [Bool.eq_iff_iff, h.descends p, and_self_iff]
  includes p := by rw [Bool.eq_iff_iff, h.includes p, and_self_iff]

theorem Agree.inside (h : Agree reply s s₁) (depth : Nat) (dir : Path) :
    (Walk.inside s₁ depth dir).answer reply = (Walk.inside s depth dir).answer reply := by
  induction depth generalizing dir with
  | zero => rfl
  | succ depth ih =>
    rw [Walk.inside, Walk.inside, Program.answer_bind, Program.answer_bind, Program.answer_list]
    cases reply (.list dir) with
    | error cause => rfl
    | ok entries =>
      refine answer_visitAll_congr fun entry _ => ?_
      refine (answer_entry reply depth _ _).trans ?_
      rw [h.descends, h.includes, ih]
      exact (answer_entry reply depth _ _).symm

theorem Agree.fromRoot (h : Agree reply s s₁) (root : Path) :
    (Walk.fromRoot root s₁).answer reply = (Walk.fromRoot root s).answer reply := by
  cases hStatus : reply (.linkStatus root) with
  | error cause =>
    rw [Walk.fromRoot, Walk.fromRoot, Program.answer_bind, Program.answer_bind,
      Program.answer_linkStatus, hStatus]
  | ok status =>
    cases hKind : status.kind with
    | directory =>
      rw [answer_fromRoot_directory hStatus hKind, answer_fromRoot_directory hStatus hKind,
        h.descends, h.inside]
    | file =>
      rw [answer_fromRoot_file hStatus hKind, answer_fromRoot_file hStatus hKind, h.includes]
    | link =>
      cases hTarget : reply (.status root) with
      | error cause =>
        rw [Walk.fromRoot, Walk.fromRoot, Program.answer_bind, Program.answer_bind,
          Program.answer_linkStatus, hStatus]
        simp only [hKind, Program.answer_bind, Program.answer_status, hTarget]
      | ok target =>
        by_cases hDirectory : target.kind = .directory
        · rw [answer_fromRoot_link hStatus hKind hTarget hDirectory,
            answer_fromRoot_link hStatus hKind hTarget hDirectory, h.includes, h.inside]
        · rw [answer_fromRoot_link_file hStatus hKind hTarget hDirectory,
            answer_fromRoot_link_file hStatus hKind hTarget hDirectory, h.includes]

end Walk

/-- Selections that accept the same are walked alike, also where the walk fails. -/
theorem answer_walk_congr (h : Walk.Agree reply s s₁) (root : Path) :
    (walk root s₁).answer reply = (walk root s).answer reply := by
  rw [walk, walk, Program.answer_bind, Program.answer_bind, h.fromRoot]

end LicenseAudit
