import LicenseAudit.Audit.Engine
import LicenseAudit.Proofs.Increasing
import LicenseAudit.Proofs.Path.Order
import LicenseAudit.Proofs.Pool.Unbroken

/-!
# How an audit ends

Whatever the disk answers, and along whatever schedules the workers take their steps: an audit ends
with an outcome whose lists are in the order of paths, or its walk has failed. No worker fails.

* `CheckOutcome.Ordered`, `FixAllOutcome.Ordered` — the lists are in the order of paths;
* `Engine.EndsWell` — an outcome with a property, or the failure of a walk.

## Results

* `check_ends`, `fixAll_ends` — how a check and a repair of a tree end.
-/

namespace LicenseAudit

/-- The missing files are in the order of paths, without repetition, and the failures are in the
order of their paths. -/
structure CheckOutcome.Ordered (c : CheckOutcome) : Prop where
  missing  : c.missing.Pairwise fun p q => p.key < q.key
  failures : c.failures.Pairwise fun x y => x.path.key ≤ y.path.key

/-- The fixed files are in the order of paths, without repetition, and the failures are in the order
of their paths. -/
structure FixAllOutcome.Ordered (o : FixAllOutcome) : Prop where
  fixed    : o.fixed.Pairwise fun p q => p.key < q.key
  failures : o.failures.Pairwise fun x y => x.path.key ≤ y.path.key

theorem FileError.ordered_sorted (es : List FileError) :
    (FileError.sorted es).Pairwise fun x y => x.path.key ≤ y.path.key := by
  have hOrder : ∀ x y : FileError,
      (!decide (y.path.key < x.path.key)) = true ↔ x.path.key ≤ y.path.key := by
    intro x y
    rw [Bool.not_eq_true', decide_eq_false_iff_not, not_lt]
  have hSorted : (FileError.sorted es).Pairwise fun x y =>
      (!decide (y.path.key < x.path.key)) = true := by
    refine List.pairwise_mergeSort (fun x y z hxy hyz => ?_) (fun x y => ?_) es
    · rw [hOrder] at hxy hyz ⊢
      exact le_trans hxy hyz
    · rw [Bool.or_eq_true, hOrder, hOrder]
      exact le_total _ _
  exact hSorted.imp fun h => (hOrder _ _).mp h

namespace Engine

variable {e : Engine} {root : Path}

theorem ordered_collectCheck (answers : List (Path × Except FileError Bool)) :
    (collectCheck answers).Ordered :=
  ⟨Path.increasing_sortedSet _, FileError.ordered_sorted _⟩

theorem ordered_collectFixes (failures : List FileError)
    (answers : List (Path × Except FileError FixOutcome)) :
    (collectFixes failures answers).Ordered :=
  ⟨Path.increasing_sortedSet _, FileError.ordered_sorted _⟩

/-- An outcome with the property, or the failure of a walk. -/
def EndsWell {α : Type} (P : α → Prop) : Except AuditError α → Prop
  | .ok outcome => P outcome
  | .error failure => ∃ w, failure = .walk w

/-- **How a check ends.** Whatever it is answered: with an outcome in order, or because its walk has
failed. -/
theorem check_ends (e : Engine) (root : Path) (schedule : List Pool.Event) :
    (e.check root schedule).Ends (EndsWell CheckOutcome.Ordered) := by
  refine (e.eligible root).ends_any.bind fun walked _ => ?_
  cases walked with
  | error w => exact ⟨w, rfl⟩
  | ok files =>
    refine (Pool.returns_results (fun p => Program.sound_some _) _ _ _).bind fun o hResults => ?_
    obtain ⟨answers, rfl⟩ := hResults
    exact ordered_collectCheck answers

/-- **How a repair of a tree ends.** Whatever it is answered: with an outcome in order, or because
its walk has failed. -/
theorem fixAll_ends (e : Engine) (root : Path) (checking fixing : List Pool.Event) :
    (e.fixAll root checking fixing).Ends (EndsWell FixAllOutcome.Ordered) := by
  refine (e.check_ends root checking).bind fun checked hChecked => ?_
  cases checked with
  | error failure => exact hChecked
  | ok c =>
    refine (Pool.returns_results (fun p => Program.sound_some _) _ _ _).bind fun o hResults => ?_
    obtain ⟨answers, rfl⟩ := hResults
    exact ordered_collectFixes c.failures answers

end Engine

end LicenseAudit
