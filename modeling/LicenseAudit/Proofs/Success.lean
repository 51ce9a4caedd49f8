import Mathlib.Data.List.Basic

/-!
# Computations that end well

Readers, calls of the file system and walks fail with an error or end with a value. One that ended
well has gone through all of its steps, and none of them failed.

## Results

* `bind_eq_ok_iff`, `map_eq_ok_iff` — what ends well behind a step does so behind one that did.
* `of_guard` — what goes on behind a guard has passed it.
* `mem_of_mapM_eq_ok` — what is made of all members of a list is made of each of them.
-/

namespace LicenseAudit

variable {ε α β : Type}

theorem ok_bind (a : α) (f : α → Except ε β) : (Except.ok a >>= f) = f a := rfl

theorem bind_eq_ok_iff {x : Except ε α} {f : α → Except ε β} {b : β} :
    (x >>= f) = .ok b ↔ ∃ a, x = .ok a ∧ f a = .ok b := by
  cases x <;> simp [bind, Except.bind]

theorem map_eq_ok_iff {x : Except ε α} {f : α → β} {b : β} :
    x.map f = .ok b ↔ ∃ a, x = .ok a ∧ f a = b := by
  cases x <;> simp [Except.map]

/-- What goes on behind a guard has passed it. -/
theorem of_guard {c : Prop} [Decidable c] {cause : ε} {f : β → Except ε α} {rest : Except ε α}
    {a : α} (h : (if c then Except.error cause >>= f else rest) = .ok a) :
    ¬ c ∧ rest = .ok a := by
  split at h
  · cases h
  · exact ⟨‹¬ c›, h⟩

/-- What is made of all members in turn is made of each of them. -/
theorem mem_of_mapM_eq_ok {f : α → Except ε β} {as : List α} {bs : List β}
    (h : as.mapM f = .ok bs) (b : β) : b ∈ bs ↔ ∃ a ∈ as, f a = .ok b := by
  induction as generalizing bs with
  | nil =>
    rw [List.mapM_nil] at h
    cases h
    simp
  | cons a rest ih =>
    rw [List.mapM_cons] at h
    obtain ⟨first, hFirst, hMore⟩ := bind_eq_ok_iff.mp h
    obtain ⟨more, hRest, hBoth⟩ := bind_eq_ok_iff.mp hMore
    cases hBoth
    rw [List.mem_cons, ih hRest, List.exists_mem_cons_iff, hFirst, Except.ok.injEq]
    exact or_congr_left eq_comm

end LicenseAudit
