import Mathlib.Data.List.Nodup
import Mathlib.Order.Lattice

/-!
# Strictly increasing lists

Directory listings, path sets and lists of failures are kept in order, without repetition. Such a
list is determined by its members.

## Results

* `eq_of_increasing` — two increasing lists with the same members are equal.
* `increasing_mergeSort` — sorting what has different keys gives an increasing list.
-/

namespace LicenseAudit

variable {α κ : Type}

/-- Two increasing lists with the same members are equal. -/
theorem eq_of_increasing [Preorder κ] {key : α → κ} {xs ys : List α}
    (hxs : xs.Pairwise fun a b => key a < key b) (hys : ys.Pairwise fun a b => key a < key b)
    (hMem : ∀ a, a ∈ xs ↔ a ∈ ys) : xs = ys := by
  have hNodup : ∀ {l : List α}, (l.Pairwise fun a b => key a < key b) → l.Nodup := by
    intro l hl
    refine hl.imp ?_
    rintro a _ hLess rfl
    exact lt_irrefl _ hLess
  refine List.Perm.eq_of_pairwise (fun a b _ _ hab hba => absurd hba (lt_asymm hab)) hxs hys ?_
  exact (List.perm_ext_iff_of_nodup (hNodup hxs) (hNodup hys)).mpr hMem

/-- Sorting what has different keys gives an increasing list. -/
theorem increasing_mergeSort [LinearOrder κ] {key : α → κ} {le : α → α → Bool}
    (hOrder : ∀ a b, le a b = true ↔ key a ≤ key b) {xs : List α}
    (hDiffer : xs.Pairwise fun a b => key a ≠ key b) :
    (xs.mergeSort le).Pairwise fun a b => key a < key b := by
  have hSorted : (xs.mergeSort le).Pairwise fun a b => le a b = true := by
    refine List.pairwise_mergeSort (fun a b c hab hbc => ?_) (fun a b => ?_) xs
    · rw [hOrder] at hab hbc ⊢
      exact le_trans hab hbc
    · rw [Bool.or_eq_true, hOrder, hOrder]
      exact le_total _ _
  have hApart : (xs.mergeSort le).Pairwise fun a b => key a ≠ key b :=
    (List.mergeSort_perm xs le).symm.pairwise hDiffer fun h => h.symm
  refine (hSorted.and hApart).imp fun {a b} h => ?_
  exact lt_of_le_of_ne ((hOrder a b).mp h.1) h.2

end LicenseAudit
