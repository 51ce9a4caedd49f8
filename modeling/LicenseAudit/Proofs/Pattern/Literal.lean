import LicenseAudit.Proofs.Pattern.Matching

/-!
# Literals, rows and anchors

A literal matches where its characters stand, one after the other, and a counted repetition of a
set where so many of its characters stand. A pattern between both ends of the text has the whole
text to match.

## Results

* `Pattern.literal_matches_iff`, `Pattern.occursIn_literal_iff` — a literal occurs in a name
  exactly when its characters stand in it as a contiguous part.
* `Pattern.row_one_iff`, `Pattern.matches_exactly_iff` — what a counted repetition matches.
* `Pattern.occursIn_anchored_iff` — between the anchors a pattern matches the whole name.
* `Pattern.anchored_literal_iff` — a literal between the anchors matches one name only.
-/

namespace LicenseAudit

namespace Pattern

-- ---------------------------------------------------------------------------
-- Literals
-- ---------------------------------------------------------------------------

theorem literal_matches_iff {text l : List Char} {i j : Nat} :
    (literal l).Matches text.toArray i j ↔ i + l.length = j ∧ l <+: text.drop i := by
  induction l generalizing i with
  | nil => simp [literal, Matches]
  | cons c rest ih =>
    simp only [literal, Matches, ih, CharSet.contains_single, beq_iff_eq, List.getElem?_toArray]
    constructor
    · rintro ⟨_, ⟨rfl, _, here, rfl⟩, rfl, more⟩
      obtain ⟨inside, rfl⟩ := List.getElem?_eq_some_iff.1 here
      refine ⟨by rw [List.length_cons]; omega, ?_⟩
      rw [List.drop_eq_getElem_cons inside]
      exact (List.prefix_cons_inj _).2 more
    · rintro ⟨rfl, front⟩
      obtain ⟨behind, split, more⟩ := List.cons_prefix_iff.1 front
      have here : text[i]? = some c := by
        rw [← List.head?_drop, split, List.head?_cons]
      have next : text.drop (i + 1) = behind := by
        rw [← List.drop_drop, split, List.drop_one, List.tail_cons]
      exact ⟨i + 1, ⟨rfl, c, here, rfl⟩, by rw [List.length_cons]; omega, next ▸ more⟩

theorem occursIn_literal_iff {l : List Char} {name : String} :
    (literal l).OccursIn name ↔ l <:+: name.toList := by
  simp only [OccursIn, literal_matches_iff]
  constructor
  · rintro ⟨i, -, -, -, front⟩
    exact front.isInfix.trans (List.drop_suffix i _).isInfix
  · rintro ⟨before, behind, whole⟩
    refine ⟨before.length, ?_, _, rfl, behind, ?_⟩
    · rw [← whole, List.append_assoc, List.length_append]
      exact Nat.le_add_right _ _
    · rw [← whole, List.append_assoc, List.drop_left]

-- ---------------------------------------------------------------------------
-- Rows
-- ---------------------------------------------------------------------------

section Rows

variable {text : List Char} {s : CharSet} {n i j : Nat}

/-- So many characters of a set in a row. -/
theorem row_one_iff : Row ((one s).Matches text.toArray) n i j ↔
    i + n = j ∧ ∃ run, run.length = n ∧ (∀ c ∈ run, s.contains c.toNat = true) ∧
      run <+: text.drop i := by
  induction n generalizing i with
  | zero =>
    simp only [Row, Nat.add_zero, List.length_eq_zero_iff]
    refine ⟨fun h => ⟨h, [], rfl, by simp, List.nil_prefix⟩, fun h => h.1⟩
  | succ n ih =>
    simp only [Row, ih]
    simp only [Matches, List.getElem?_toArray]
    constructor
    · rintro ⟨_, ⟨rfl, c, here, member⟩, rfl, run, length, members, front⟩
      obtain ⟨inside, rfl⟩ := List.getElem?_eq_some_iff.1 here
      refine ⟨by omega, text[i] :: run, by rw [List.length_cons, length], ?_, ?_⟩
      · rintro d hd
        rcases List.mem_cons.1 hd with rfl | later
        · exact member
        · exact members d later
      · rw [List.drop_eq_getElem_cons inside]
        exact (List.prefix_cons_inj _).2 front
    · rintro ⟨rfl, run, length, members, front⟩
      obtain ⟨c, rest, rfl⟩ := List.exists_cons_of_length_eq_add_one length
      obtain ⟨behind, split, more⟩ := List.cons_prefix_iff.1 front
      have here : text[i]? = some c := by rw [← List.head?_drop, split, List.head?_cons]
      have next : text.drop (i + 1) = behind := by
        rw [← List.drop_drop, split, List.drop_one, List.tail_cons]
      refine ⟨i + 1, ⟨rfl, c, here, members c List.mem_cons_self⟩, by omega, rest,
        Nat.succ.inj length, fun d hd => ?_, next ▸ more⟩
      exact members d (List.mem_cons_of_mem _ hd)

/-- Without a choice of how many, a repetition is a row. -/
theorem matches_exactly_iff {p : Pattern} {text : Array Char} :
    (repeated p n (some n)).Matches text i j ↔ Row (p.Matches text) n i j := by
  constructor
  · rintro ⟨m, low, high, row⟩
    have := high n rfl
    obtain rfl : m = n := by omega
    exact row
  · intro row
    refine ⟨n, Nat.le_refl n, ?_, row⟩
    rintro high ⟨⟩
    exact Nat.le_max_left n n

end Rows

-- ---------------------------------------------------------------------------
-- Anchors
-- ---------------------------------------------------------------------------

theorem matches_sequence_append {text : Array Char} {ps qs : List Pattern} {i j : Nat} :
    (sequence (ps ++ qs)).Matches text i j ↔
      (seq (sequence ps) (sequence qs)).Matches text i j := by
  induction ps generalizing i with
  | nil => simp [sequence, Matches]
  | cons p ps ih =>
    simp only [sequence, List.cons_append, List.foldr_cons, Matches] at ih ⊢
    simp only [ih]
    constructor
    · rintro ⟨k, hp, k', hps, hqs⟩
      exact ⟨k', ⟨k, hp, hps⟩, hqs⟩
    · rintro ⟨k', ⟨k, hp, hps⟩, hqs⟩
      exact ⟨k, hp, k', hps, hqs⟩

/-- Patterns in a row between the anchors are their sequence between the anchors. -/
theorem matches_sequence_anchored_iff {text : Array Char} {ps : List Pattern} {i j : Nat} :
    (sequence (place .textStart :: (ps ++ [place .textEnd]))).Matches text i j ↔
      (seq (place .textStart) (seq (sequence ps) (place .textEnd))).Matches text i j := by
  refine exists_congr fun k => and_congr_right fun _ => ?_
  rw [← sequence, matches_sequence_append]
  simp [sequence, Matches]

theorem holdsAt_textStart_iff {text : Array Char} {i : Nat} (inside : i ≤ text.size) :
    Assertion.textStart.holdsAt text i = true ↔ i = 0 := by
  by_cases front : i = 0
  · simp [Assertion.holdsAt, Assertion.holds, front]
  · simp only [Assertion.holdsAt, Assertion.holds, front, if_false, Option.isNone_iff_eq_none,
      Array.getElem?_eq_none_iff, iff_false]
    omega

theorem holdsAt_textEnd_iff {text : Array Char} {i : Nat} :
    Assertion.textEnd.holdsAt text i = true ↔ text.size ≤ i := by
  simp [Assertion.holdsAt, Assertion.holds]

/-- Between the anchors a pattern has the whole name to match. -/
theorem occursIn_anchored_iff {p : Pattern} {name : String} :
    (seq (place .textStart) (seq p (place .textEnd))).OccursIn name ↔
      p.Matches name.toList.toArray 0 name.toList.length := by
  have size : name.toList.toArray.size = name.toList.length := List.size_toArray
  constructor
  · rintro ⟨i, inside, j, i', ⟨rfl, atStart⟩, j', m, rfl, atEnd⟩
    obtain rfl := (holdsAt_textStart_iff (size ▸ inside)).1 atStart
    have behind := holdsAt_textEnd_iff.1 atEnd
    have forward := m.forward
    obtain rfl : j' = name.toList.length := by omega
    exact m
  · intro m
    refine ⟨0, Nat.zero_le _, _, 0, ⟨rfl, rfl⟩, _, m, rfl, ?_⟩
    exact holdsAt_textEnd_iff.2 (Nat.le_of_eq size)

/-- A literal between the anchors matches one name only. -/
theorem anchored_literal_iff {name n : String} :
    (seq (place .textStart) (seq (literal name.toList) (place .textEnd))).OccursIn n ↔
      n = name := by
  rw [occursIn_anchored_iff, literal_matches_iff, Nat.zero_add, List.drop_zero,
    ← String.toList_inj]
  constructor
  · rintro ⟨length, front⟩
    exact (front.eq_of_length length).symm
  · intro same
    rw [same]
    exact ⟨rfl, List.prefix_refl _⟩

end Pattern

end LicenseAudit
