import LicenseAudit.Pattern.Basic

/-!
# What a pattern matches

The search keeps lists of places: where a match may begin, and where it can end. This module
says without lists what a match is, and that the search finds exactly the matches.

* `Pattern.Matches text p i j` — the pattern matches the part of the text from place `i` to
  place `j`, constructor by constructor;
* `Pattern.OccursIn` — the pattern matches some part of a name.

Repetitions are searched in rounds. A round that reaches nothing new ends the search early,
and without a bound the rounds are as many as the text has places. Neither loses a match: every
copy that takes characters goes forward in the text, and the copies that take none can be left
out (`Row.shorten`).

## Results

* `Pattern.mem_iterate_iff`, `Pattern.mem_grow_iff` — what the rounds of a repetition reach;
* `Pattern.mem_ends_iff` — the search reaches the ends of the matches and no other place;
* `Pattern.foundIn_iff` — a pattern is found in a name exactly when it matches a part of it.
-/

namespace LicenseAudit

namespace Pattern

/-! ## Matches in a row -/

/-- So many matches in a row, each from where the one before ends. -/
def Row (R : Nat → Nat → Prop) : Nat → Nat → Nat → Prop
  | 0, i, j => i = j
  | n + 1, i, j => ∃ k, R i k ∧ Row R n k j

namespace Row

variable {R : Nat → Nat → Prop}

theorem add_iff {m n i j : Nat} : Row R (m + n) i j ↔ ∃ k, Row R m i k ∧ Row R n k j := by
  induction m generalizing i with
  | zero => simp [Row]
  | succ m ih =>
    rw [show m + 1 + n = m + n + 1 by omega]
    simp only [Row, ih]
    constructor
    · rintro ⟨a, hia, k, hak, hkj⟩
      exact ⟨k, ⟨a, hia, hak⟩, hkj⟩
    · rintro ⟨k, ⟨a, hia, hak⟩, hkj⟩
      exact ⟨a, hia, k, hak, hkj⟩

/-- Where a step from the places leads to the places again, and to all of them, so does a row. -/
theorem exists_iff_of_fixed {places : List Nat} (fixed : ∀ j, j ∈ places ↔ ∃ i ∈ places, R i j)
    (n j : Nat) : (∃ i ∈ places, Row R n i j) ↔ j ∈ places := by
  induction n with
  | zero => simp [Row]
  | succ n ih =>
    rw [← ih]
    constructor
    · rintro ⟨i, hi, k, hik, hkj⟩
      exact ⟨k, (fixed k).2 ⟨i, hi, hik⟩, hkj⟩
    · rintro ⟨k, hk, hkj⟩
      obtain ⟨i, hi, hik⟩ := (fixed k).1 hk
      exact ⟨i, hi, k, hik, hkj⟩

/-- Where no step leaves the places, no row does. -/
theorem mem_of_closed {places : List Nat} (closed : ∀ i ∈ places, ∀ j, R i j → j ∈ places)
    {n i j : Nat} (hi : i ∈ places) (row : Row R n i j) : j ∈ places := by
  induction n generalizing i with
  | zero => exact row ▸ hi
  | succ n ih =>
    obtain ⟨k, hik, hkj⟩ := row
    exact ih (closed i hi k hik) hkj

theorem le (forward : ∀ i j, R i j → i ≤ j) {n i j : Nat} (row : Row R n i j) : i ≤ j := by
  induction n generalizing i with
  | zero => exact Nat.le_of_eq row
  | succ n ih =>
    obtain ⟨k, hik, hkj⟩ := row
    exact Nat.le_trans (forward i k hik) (ih hkj)

/-- Matches that stay where they are can be left out of a row, and the others are no more than
the characters between its ends. -/
theorem shorten (forward : ∀ i j, R i j → i ≤ j) {n i j : Nat} (row : Row R n i j) :
    ∃ m ≤ j - i, Row R m i j := by
  induction n generalizing i with
  | zero => exact ⟨0, Nat.zero_le _, row⟩
  | succ n ih =>
    obtain ⟨k, hik, hkj⟩ := row
    obtain ⟨m, hm, short⟩ := ih hkj
    by_cases stays : i = k
    · exact ⟨m, stays ▸ hm, stays ▸ short⟩
    · have hik' : i ≤ k := forward i k hik
      have hkj' : k ≤ j := le forward hkj
      exact ⟨m + 1, by omega, k, hik, short⟩

end Row

/-! ## Matches -/

/-- The pattern matches the part of the text from one place to another. A bound of a repetition
that lies below the least count stands for that count. -/
def Matches (text : Array Char) : Pattern → Nat → Nat → Prop
  | empty, i, j => i = j
  | one s, i, j => i + 1 = j ∧ ∃ c, text[i]? = some c ∧ s.contains c.toNat = true
  | place a, i, j => i = j ∧ a.holdsAt text i = true
  | seq p q, i, j => ∃ k, p.Matches text i k ∧ q.Matches text k j
  | either p q, i, j => p.Matches text i j ∨ q.Matches text i j
  | repeated p low high?, i, j =>
      ∃ n, low ≤ n ∧ (∀ high, high? = some high → n ≤ max low high) ∧
        Row (p.Matches text) n i j

/-- The pattern matches some part of a name. -/
def OccursIn (p : Pattern) (name : String) : Prop :=
  ∃ i ≤ name.toList.length, ∃ j, p.Matches name.toList.toArray i j

/-- A match goes forward, and inside the text unless it takes nothing. -/
theorem Matches.forward {text : Array Char} {p : Pattern} {i j : Nat} (m : p.Matches text i j) :
    i ≤ j ∧ (i < j → j ≤ text.size) := by
  induction p generalizing i j with
  | empty => exact ⟨Nat.le_of_eq m, fun h => absurd m (Nat.ne_of_lt h)⟩
  | one s =>
    obtain ⟨rfl, c, hc, -⟩ := m
    exact ⟨Nat.le_succ i, fun _ => (Array.getElem?_eq_some_iff.1 hc).1⟩
  | place a => exact ⟨Nat.le_of_eq m.1, fun h => absurd m.1 (Nat.ne_of_lt h)⟩
  | seq p q ihp ihq =>
    obtain ⟨k, hp, hq⟩ := m
    have hik := ihp hp
    have hkj := ihq hq
    omega
  | either p q ihp ihq => exact m.elim ihp ihq
  | repeated p low high? ih =>
    obtain ⟨n, -, -, row⟩ := m
    clear low high?
    induction n generalizing i with
    | zero => exact ⟨Nat.le_of_eq row, fun h => absurd row (Nat.ne_of_lt h)⟩
    | succ n ihn =>
      obtain ⟨k, hik, hkj⟩ := row
      have first := ih hik
      have rest := ihn hkj
      omega

/-! ## The search -/

theorem mem_merge {xs ys : List Nat} {i : Nat} : i ∈ merge xs ys ↔ i ∈ xs ∨ i ∈ ys := by
  by_cases h : i ∈ xs <;> simp [merge, h]

/-- A merge that adds nothing to its left side has nothing new on its right side. -/
theorem subset_of_merge_length {xs ys : List Nat} (h : (merge xs ys).length = xs.length) :
    ∀ i ∈ ys, i ∈ xs := by
  intro i hi
  have none_new : ys.filter (fun y => !xs.contains y) = [] := by
    rw [← List.length_eq_zero_iff]
    simp only [merge, List.length_append] at h
    omega
  simpa using List.filter_eq_nil_iff.1 none_new i hi

section Rounds

variable {R : Nat → Nat → Prop} {step : List Nat → List Nat}
  (steps : ∀ places j, j ∈ step places ↔ ∃ i ∈ places, R i j)
include steps

theorem mem_iterate_iff (n : Nat) (places : List Nat) (j : Nat) :
    j ∈ iterate step n places ↔ ∃ i ∈ places, Row R n i j := by
  induction n generalizing places with
  | zero => simp [iterate, Row]
  | succ n ih =>
    simp only [iterate]
    split
    · next fixed =>
      refine (Row.exists_iff_of_fixed (fun k => ?_) (n + 1) j).symm
      rw [← steps places k, fixed]
    · rw [ih]
      constructor
      · rintro ⟨k, hk, row⟩
        obtain ⟨i, hi, hik⟩ := (steps places k).1 hk
        exact ⟨i, hi, k, hik, row⟩
      · rintro ⟨i, hi, k, hik, row⟩
        exact ⟨k, (steps places k).2 ⟨i, hi, hik⟩, row⟩

theorem mem_grow_iff (n : Nat) (places : List Nat) (j : Nat) :
    j ∈ grow step n places ↔ ∃ i ∈ places, ∃ m ≤ n, Row R m i j := by
  induction n generalizing places with
  | zero => simp [grow, Row]
  | succ n ih =>
    simp only [grow]
    split
    · next still =>
      -- Nothing new was reached, so that the places are closed under further steps.
      have closed : ∀ i ∈ places, ∀ k, R i k → k ∈ places := fun i hi k hik =>
        subset_of_merge_length still k ((steps places k).2 ⟨i, hi, hik⟩)
      constructor
      · intro hj
        exact ⟨j, hj, 0, Nat.zero_le _, rfl⟩
      · rintro ⟨i, hi, m, -, row⟩
        exact Row.mem_of_closed closed hi row
    · rw [ih]
      constructor
      · rintro ⟨k, hk, m, hm, row⟩
        obtain hk | hk := mem_merge.1 hk
        · exact ⟨k, hk, m, by omega, row⟩
        · obtain ⟨i, hi, hik⟩ := (steps places k).1 hk
          exact ⟨i, hi, m + 1, by omega, k, hik, row⟩
      · rintro ⟨i, hi, m, hm, row⟩
        cases m with
        | zero => exact ⟨i, mem_merge.2 (.inl hi), 0, Nat.zero_le _, row⟩
        | succ m =>
          obtain ⟨k, hik, row⟩ := row
          have hk : k ∈ step places := (steps places k).2 ⟨i, hi, hik⟩
          exact ⟨k, mem_merge.2 (.inr hk), m, by omega, row⟩

end Rounds

/-- The first copies of a repetition and then the further ones. Without a bound, as many further
copies as the text has places are enough. -/
theorem matches_repeated_iff {text : Array Char} {p : Pattern} {low i j : Nat}
    {high? : Option Nat} :
    (repeated p low high?).Matches text i j ↔
      ∃ k, Row (p.Matches text) low i k ∧
        ∃ m ≤ (match high? with | some high => high - low | none => text.size + 1),
          Row (p.Matches text) m k j := by
  constructor
  · rintro ⟨n, hlow, hhigh, row⟩
    obtain ⟨d, rfl⟩ := Nat.exists_eq_add_of_le hlow
    obtain ⟨k, first, further⟩ := Row.add_iff.1 row
    refine ⟨k, first, ?_⟩
    cases high? with
    | some high =>
      have := hhigh high rfl
      exact ⟨d, by dsimp only; omega, further⟩
    | none =>
      -- The copies that take nothing are left out, and no more others fit into the text.
      obtain ⟨m, hm, short⟩ := further.shorten fun _ _ h => h.forward.1
      have unbounded : (repeated p 0 none).Matches text k j :=
        ⟨d, Nat.zero_le _, by simp, further⟩
      have inside := unbounded.forward
      exact ⟨m, by dsimp only; omega, short⟩
  · rintro ⟨k, first, m, hm, further⟩
    refine ⟨low + m, Nat.le_add_right _ _, ?_, Row.add_iff.2 ⟨k, first, further⟩⟩
    rintro high rfl
    dsimp only at hm
    omega

/-- The search reaches the ends of the matches that begin at one of the places, and nothing
else. -/
theorem mem_ends_iff {text : Array Char} {p : Pattern} {places : List Nat} {j : Nat} :
    j ∈ p.ends text places ↔ ∃ i ∈ places, p.Matches text i j := by
  induction p generalizing places j with
  | empty => simp [ends, Matches]
  | one s =>
    simp only [ends, Matches, List.mem_filterMap]
    refine exists_congr fun i => and_congr_right fun _ => ?_
    cases text[i]? with
    | none => simp
    | some c => by_cases h : s.contains c.toNat = true <;> simp [h]
  | place a =>
    simp only [ends, Matches, List.mem_filter]
    constructor
    · rintro ⟨hj, holds⟩
      exact ⟨j, hj, rfl, holds⟩
    · rintro ⟨i, hi, rfl, holds⟩
      exact ⟨hi, holds⟩
  | seq p q ihp ihq =>
    simp only [ends, Matches, ihp, ihq]
    constructor
    · rintro ⟨k, ⟨i, hi, hp⟩, hq⟩
      exact ⟨i, hi, k, hp, hq⟩
    · rintro ⟨i, hi, k, hp, hq⟩
      exact ⟨k, ⟨i, hi, hp⟩, hq⟩
  | either p q ihp ihq =>
    simp only [ends, Matches, mem_merge, ihp, ihq, ← exists_or, ← and_or_left]
  | repeated p low high? ih =>
    have steps : ∀ (places : List Nat) (j : Nat),
        j ∈ p.ends text places ↔ ∃ i ∈ places, p.Matches text i j := fun _ _ => ih
    simp only [ends, mem_grow_iff steps, mem_iterate_iff steps, matches_repeated_iff]
    constructor
    · rintro ⟨k, ⟨i, hi, first⟩, further⟩
      exact ⟨i, hi, k, first, further⟩
    · rintro ⟨i, hi, k, first, further⟩
      exact ⟨k, ⟨i, hi, first⟩, further⟩

theorem foundIn_iff {p : Pattern} {name : String} :
    p.foundIn name.toList = true ↔ p.OccursIn name := by
  have some_end : p.foundIn name.toList = true ↔
      ∃ j, j ∈ p.ends name.toList.toArray (List.range (name.toList.length + 1)) := by
    simp [foundIn, List.eq_nil_iff_forall_not_mem]
  rw [some_end]
  simp only [mem_ends_iff, List.mem_range, Nat.lt_succ_iff, OccursIn]
  constructor
  · rintro ⟨j, i, hi, m⟩
    exact ⟨i, hi, j, m⟩
  · rintro ⟨i, hi, j, m⟩
    exact ⟨j, i, hi, m⟩

end Pattern

end LicenseAudit
