import LicenseAudit.Path.Basic
import LicenseAudit.Proofs.Increasing
import Mathlib.Data.List.Lex

/-!
# The order of paths

Paths are ordered by their keys, and a key stands for the components of its path. A set of paths
is a list with increasing keys.

## Results

* `same_iff_key_eq` — paths are the same exactly if their keys are equal.
* `increasing_sortedSet` — the keys of a sorted set increase.
* `mem_sortedSet`, `sortedSet_perm` — nothing is dropped from a list of different paths.
* `sortedSet_congr` — the order of the list does not matter.
-/

namespace LicenseAudit

/-- The key of a component stands for the component. -/
theorem Component.key_injective : Function.Injective Component.key := by
  intro a b hKey
  cases a <;> cases b <;> simp_all [Component.key]
  rename_i n m
  rw [← String.toList_inj]
  exact (List.map_injective_iff.mpr fun c d h => Char.toNat_inj.mp h) hKey

namespace Path

theorem key_eq_iff {p q : Path} : p.key = q.key ↔ p.components = q.components :=
  (List.map_injective_iff.mpr Component.key_injective).eq_iff

theorem same_iff_key_eq {p q : Path} : p.same q = true ↔ p.key = q.key := by
  rw [same, beq_iff_eq, key_eq_iff]

theorem same_eq_false_iff {p q : Path} : p.same q = false ↔ p.key ≠ q.key := by
  rw [← Bool.not_eq_true, same_iff_key_eq]

-- ---------------------------------------------------------------------------
-- Inserting a path
-- ---------------------------------------------------------------------------

theorem mem_of_mem_insertSorted {p q : Path} {set : List Path} (h : q ∈ p.insertSorted set) :
    q = p ∨ q ∈ set := by
  induction set with
  | nil => exact Or.inl (List.mem_singleton.mp h)
  | cons first rest ih =>
    rw [insertSorted] at h
    split_ifs at h
    · exact List.mem_cons.mp h
    · exact Or.inr h
    · rcases List.mem_cons.mp h with hFirst | hLater
      · exact Or.inr (hFirst ▸ List.mem_cons_self ..)
      · exact (ih hLater).imp_right (List.mem_cons_of_mem _)

/-- A path whose key is new is inserted, and nothing is lost. -/
theorem mem_insertSorted {p q : Path} {set : List Path} (hNew : ∀ r ∈ set, p.key ≠ r.key) :
    q ∈ p.insertSorted set ↔ q = p ∨ q ∈ set := by
  refine ⟨mem_of_mem_insertSorted, ?_⟩
  induction set with
  | nil => simp [insertSorted]
  | cons first rest ih =>
    intro h
    rw [insertSorted]
    split_ifs with hBefore hEqual
    · exact List.mem_cons.mpr h
    · exact absurd hEqual (hNew first (List.mem_cons_self ..))
    · have hRest := ih fun r hMem => hNew r (List.mem_cons_of_mem _ hMem)
      rw [List.mem_cons]
      rcases h with hSelf | hOld
      · exact Or.inr (hRest (Or.inl hSelf))
      · exact (List.mem_cons.mp hOld).imp_right fun hLater => hRest (Or.inr hLater)

/-- Inserting keeps the keys increasing. -/
theorem increasing_insertSorted (p : Path) {set : List Path}
    (h : set.Pairwise fun a b => a.key < b.key) :
    (p.insertSorted set).Pairwise fun a b => a.key < b.key := by
  induction set with
  | nil => exact List.pairwise_singleton _ _
  | cons first rest ih =>
    obtain ⟨hFirst, hRest⟩ := List.pairwise_cons.mp h
    rw [insertSorted]
    split_ifs with hBefore hEqual
    · refine List.pairwise_cons.mpr ⟨?_, h⟩
      intro q hMem
      rcases List.mem_cons.mp hMem with rfl | hLater
      · exact hBefore
      · exact lt_trans hBefore (hFirst q hLater)
    · exact h
    · have hBehind : first.key < p.key :=
        lt_of_le_of_ne (not_lt.mp hBefore) fun hEq => hEqual hEq.symm
      refine List.pairwise_cons.mpr ⟨?_, ih hRest⟩
      intro q hMem
      rcases mem_of_mem_insertSorted hMem with rfl | hOld
      · exact hBehind
      · exact hFirst q hOld

-- ---------------------------------------------------------------------------
-- Sets of paths
-- ---------------------------------------------------------------------------

/-- The keys of a sorted set increase. -/
theorem increasing_sortedSet (ps : List Path) :
    (sortedSet ps).Pairwise fun a b => a.key < b.key := by
  suffices hFold : ∀ set : List Path, (set.Pairwise fun a b => a.key < b.key) →
      (ps.foldl (fun set p => p.insertSorted set) set).Pairwise fun a b => a.key < b.key from
    hFold [] List.Pairwise.nil
  induction ps with
  | nil => exact fun set h => h
  | cons p rest ih => exact fun set h => ih _ (increasing_insertSorted p h)

/-- The sorted set of different paths has all of them as its members, and no others. -/
theorem mem_sortedSet {ps : List Path} (hDiffer : ps.Pairwise fun p q => p.key ≠ q.key)
    {q : Path} : q ∈ sortedSet ps ↔ q ∈ ps := by
  suffices hFold : ∀ set : List Path, (∀ p ∈ ps, ∀ r ∈ set, p.key ≠ r.key) →
      (q ∈ ps.foldl (fun set p => p.insertSorted set) set ↔ q ∈ set ∨ q ∈ ps) by
    simpa [sortedSet] using hFold [] fun p _ r hMem => absurd hMem List.not_mem_nil
  induction ps with
  | nil => simp
  | cons p rest ih =>
    intro set hNew
    obtain ⟨hFirst, hRest⟩ := List.pairwise_cons.mp hDiffer
    have hInsert := mem_insertSorted (q := q) (hNew p (List.mem_cons_self ..))
    rw [List.foldl_cons, ih hRest, hInsert, List.mem_cons]
    · rw [or_comm (a := q = p), or_assoc]
    · intro r hMem s hSet
      rcases mem_of_mem_insertSorted hSet with rfl | hOld
      · exact fun hEq => hFirst r hMem hEq.symm
      · exact hNew r (List.mem_cons_of_mem _ hMem) s hOld

/-- The sorted set of different paths is the list of them in another order. -/
theorem sortedSet_perm {ps : List Path} (hDiffer : ps.Pairwise fun p q => p.key ≠ q.key) :
    (sortedSet ps).Perm ps := by
  have hNodup : ∀ {l : List Path}, (l.Pairwise fun p q => p.key ≠ q.key) → l.Nodup :=
    fun h => h.imp fun hKey hEq => hKey (congrArg key hEq)
  refine (List.perm_ext_iff_of_nodup (hNodup ?_) (hNodup hDiffer)).mpr fun q =>
    mem_sortedSet hDiffer
  exact (increasing_sortedSet ps).imp ne_of_lt

/-- Different paths have the same sorted set in every order. -/
theorem sortedSet_congr {ps qs : List Path} (h : qs.Perm ps)
    (hDiffer : ps.Pairwise fun p q => p.key ≠ q.key) : sortedSet qs = sortedSet ps := by
  have hDiffer' : qs.Pairwise fun p q => p.key ≠ q.key :=
    h.symm.pairwise hDiffer fun hKeys => hKeys.symm
  refine eq_of_increasing (increasing_sortedSet _) (increasing_sortedSet _) fun p => ?_
  rw [mem_sortedSet hDiffer', mem_sortedSet hDiffer, h.mem_iff]

end Path

end LicenseAudit
