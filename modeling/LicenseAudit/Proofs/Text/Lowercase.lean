import LicenseAudit.Text.Lowercase
import Mathlib.Data.List.Basic

/-!
# Lowercase texts

A key may be lowercased more than once on its way from the configuration to the lookup. This does
no harm, because lowercasing makes only characters that it leaves alone. For the table of runs
this is a fact about pairs of runs: what one run makes lies outside of every other one, or between
its steps.

A letter of ASCII and the same letter in the other case come to the same, and a neighbour cannot
tell them apart either.

* `CaseRun.avoids` — a run makes nothing that another run moves;
* `IsLower` — a character that lowercasing leaves alone.

## Results

* `lowerChar_isLower` — what lowercasing makes of a character is in lower case.
* `lowercaseString_lowercaseString` — a text in lower case stays as it is.
* `mem_lowercaseAfter` — and so does each of its characters.
* `lowercase_map_toLower` — the case of the letters of ASCII is lost.
-/

namespace LicenseAudit.Text

-- ---------------------------------------------------------------------------
-- Runs
-- ---------------------------------------------------------------------------

namespace CaseRun

variable {r r' : CaseRun} {n m : Nat}

theorem image?_eq_some_iff : r.image? n = some m ↔
    r.first ≤ n ∧ n ≤ r.last ∧ (n - r.first) % r.step = 0 ∧ m = r.target + (n - r.first) := by
  unfold image?
  split <;> rename_i h <;>
    simp only [Bool.and_eq_true, decide_eq_true_eq, beq_iff_eq, and_assoc] at h
  · simp [h, eq_comm]
  · simp only [reduceCtorEq, false_iff]
    exact fun hImage => h ⟨hImage.1, hImage.2.1, hImage.2.2.1⟩

/-- What the first run makes lies outside of the second one, or between its steps. The checks
are those that the kernel computes fast. -/
def avoids (r r' : CaseRun) : Bool :=
  (r.target + (r.last - r.first)).blt r'.first || r'.last.blt r.target ||
    (r'.step.beq 2 && (r.step.beq 2 || r.first.beq r.last) && ((r.target + r'.first) % 2).beq 1)

theorem image?_eq_none_of_avoids (h : r.avoids r' = true) (hImage : r.image? n = some m) :
    r'.image? m = none := by
  obtain ⟨hFirst, hLast, hStep, rfl⟩ := image?_eq_some_iff.mp hImage
  rw [Option.eq_none_iff_forall_ne_some]
  intro k hAgain
  obtain ⟨hFirst', hLast', hStep', -⟩ := image?_eq_some_iff.mp hAgain
  simp only [avoids, Bool.or_eq_true, Bool.and_eq_true, Nat.blt_eq, Nat.beq_eq] at h
  rcases h with (hBelow | hAbove) | ⟨⟨hTwo', hTwo | hOne⟩, hOdd⟩
  · omega
  · omega
  · rw [hTwo] at hStep
    rw [hTwo'] at hStep'
    omega
  · rw [hTwo'] at hStep'
    omega

end CaseRun

/-- The one character that becomes two, as a run. -/
def dottedRun : CaseRun := ⟨0x130, 0x130, 1, 0x69⟩

/-- No run makes a character that a run moves. -/
theorem lowerRuns_avoid {r r' : CaseRun} (hRun : r ∈ lowerRuns)
    (hRun' : r' ∈ dottedRun :: lowerRuns) : r.avoids r' = true := by
  have hAll : (lowerRuns.all fun r => (dottedRun :: lowerRuns).all fun r' => r.avoids r') =
      true := by decide +kernel
  exact List.all_eq_true.mp (List.all_eq_true.mp hAll r hRun) r' hRun'

/-- No run makes a capital letter of ASCII or a surrogate, or leaves the code space. -/
theorem lowerRuns_valid : ∀ r ∈ lowerRuns, 0x5A < r.target ∧
    (r.target + (r.last - r.first) < 0xD800 ∨
      0xDFFF < r.target ∧ r.target + (r.last - r.first) < 0x110000) := by
  decide +kernel

-- ---------------------------------------------------------------------------
-- Characters
-- ---------------------------------------------------------------------------

/-- Lowercasing leaves the character alone. -/
def IsLower (c : Char) : Prop := lowerChar c = [c]

instance (c : Char) : Decidable (IsLower c) := by
  unfold IsLower
  infer_instance

/-- In ASCII a character is in lower case after lowercasing, and from the first small letter on
already before. -/
theorem isLower_ascii : ∀ n < 0x80,
    IsLower (Char.ofNat n).toLower ∧ (0x5A < n → IsLower (Char.ofNat n)) := by
  decide

theorem isLower_image {r : CaseRun} {n m : Nat} (hRun : r ∈ lowerRuns)
    (hImage : r.image? n = some m) : IsLower (Char.ofNat m) := by
  obtain ⟨hTarget, hRange⟩ := lowerRuns_valid r hRun
  obtain ⟨hFirst, hLast, -, hPlace⟩ := CaseRun.image?_eq_some_iff.mp hImage
  by_cases hAscii : m < 0x80
  · exact (isLower_ascii m hAscii).2 (by omega)
  have hNat : (Char.ofNat m).toNat = m := by
    have hValid : m.isValidChar := by
      unfold Nat.isValidChar
      omega
    rw [Char.ofNat, dif_pos hValid]
    rfl
  have hPlain : Char.ofNat m ≠ 'İ' := by
    intro hDotted
    rw [hDotted] at hNat
    have hNone := CaseRun.image?_eq_none_of_avoids
      (lowerRuns_avoid hRun List.mem_cons_self) hImage
    rw [← hNat] at hNone
    exact absurd hNone (by decide)
  have hNone : lowerRuns.findSome? (·.image? m) = none :=
    List.findSome?_eq_none_iff.mpr fun r' hMem =>
      CaseRun.image?_eq_none_of_avoids (lowerRuns_avoid hRun (List.mem_cons_of_mem _ hMem)) hImage
  rw [IsLower, lowerChar, hNat, if_neg hAscii, if_neg hPlain, hNone]

/-- What lowercasing makes of a character is in lower case. -/
theorem lowerChar_isLower {c d : Char} (h : d ∈ lowerChar c) : IsLower d := by
  by_cases hAscii : c.toNat < 0x80
  · rw [lowerChar, if_pos hAscii, List.mem_singleton] at h
    have hLower := (isLower_ascii c.toNat hAscii).1
    rwa [Char.ofNat_toNat, ← h] at hLower
  by_cases hDotted : c = 'İ'
  · have hBoth : IsLower 'i' ∧ IsLower '\u0307' := by decide
    rw [lowerChar, if_neg hAscii, if_pos hDotted, List.mem_cons, List.mem_singleton] at h
    rcases h with rfl | rfl
    · exact hBoth.1
    · exact hBoth.2
  cases hImage : lowerRuns.findSome? (·.image? c.toNat) with
  | some n =>
    obtain ⟨r, hRun, hHere⟩ := List.exists_of_findSome?_eq_some hImage
    rw [lowerChar, if_neg hAscii, if_neg hDotted, hImage, List.mem_singleton] at h
    exact h ▸ isLower_image hRun hHere
  | none =>
    have hSelf : IsLower c := by
      rw [IsLower, lowerChar, if_neg hAscii, if_neg hDotted, hImage]
    rw [hSelf, List.mem_singleton] at h
    exact h ▸ hSelf

-- ---------------------------------------------------------------------------
-- Texts
-- ---------------------------------------------------------------------------

theorem lowercaseAfter_isLower (before cs : List Char) :
    ∀ d ∈ lowercaseAfter before cs, IsLower d := by
  induction cs generalizing before with
  | nil => exact fun d hMem => absurd hMem List.not_mem_nil
  | cons c rest ih =>
    intro d hMem
    rw [lowercaseAfter, List.mem_append] at hMem
    rcases hMem with hHere | hLater
    · split at hHere
      · have hSigmas : IsLower 'ς' ∧ IsLower 'σ' := by decide
        rw [List.mem_singleton] at hHere
        split at hHere
        · exact hHere ▸ hSigmas.1
        · exact hHere ▸ hSigmas.2
      · exact lowerChar_isLower hHere
    · exact ih _ d hLater

/-- Characters in lower case are left alone, whatever stands before them. -/
theorem lowercaseAfter_of_isLower (before : List Char) {cs : List Char}
    (h : ∀ c ∈ cs, IsLower c) : lowercaseAfter before cs = cs := by
  induction cs generalizing before with
  | nil => rfl
  | cons c rest ih =>
    have hHere : IsLower c := h c List.mem_cons_self
    have hSigma : c ≠ 'Σ' := by
      rintro rfl
      exact absurd hHere (by decide)
    rw [lowercaseAfter, if_neg hSigma, hHere,
      ih (c :: before) fun d hMem => h d (List.mem_cons_of_mem _ hMem)]
    rfl

/-- The first character becomes at least one. -/
theorem exists_lowercaseAfter_cons (before : List Char) (c : Char) (rest : List Char) :
    ∃ first more, lowercaseAfter before (c :: rest) =
      first :: more ++ lowercaseAfter (c :: before) rest := by
  have hSome : lowerChar c ≠ [] := by
    unfold lowerChar
    split
    · exact List.cons_ne_nil _ _
    split
    · exact List.cons_ne_nil _ _
    split <;> exact List.cons_ne_nil _ _
  obtain ⟨first, more, hFirst⟩ := List.exists_cons_of_ne_nil hSome
  rw [lowercaseAfter]
  split
  · exact ⟨_, [], rfl⟩
  · exact ⟨first, more, by rw [hFirst]⟩

/-- A character in lower case stays where it is. -/
theorem mem_lowercaseAfter {c : Char} (hLower : IsLower c) (before : List Char) {cs : List Char}
    (h : c ∈ cs) : c ∈ lowercaseAfter before cs := by
  induction cs generalizing before with
  | nil => exact absurd h List.not_mem_nil
  | cons d rest ih =>
    rw [lowercaseAfter, List.mem_append]
    rcases List.mem_cons.mp h with rfl | hLater
    · have hSigma : c ≠ 'Σ' := by
        rintro rfl
        exact absurd hLower (by decide)
      rw [if_neg hSigma, hLower]
      exact Or.inl (List.mem_singleton_self c)
    · exact Or.inr (ih _ hLater)

/-- Only the empty text is empty in lower case. -/
theorem lowercaseString_ne_empty {s : String} (h : s ≠ "") : lowercaseString s ≠ "" := by
  obtain ⟨c, rest, hText⟩ := List.exists_cons_of_ne_nil (mt String.toList_eq_nil_iff.mp h)
  obtain ⟨first, more, hFirst⟩ := exists_lowercaseAfter_cons [] c rest
  intro hEmpty
  have hNil := congrArg String.toList hEmpty
  rw [lowercaseString, String.toList_ofList, lowercase, hText, hFirst] at hNil
  cases hNil

/-- A text in lower case stays as it is. -/
theorem lowercaseString_lowercaseString (s : String) :
    lowercaseString (lowercaseString s) = lowercaseString s := by
  have hLower := lowercaseAfter_of_isLower [] (lowercaseAfter_isLower [] s.toList)
  rw [lowercaseString, lowercaseString, String.toList_ofList, lowercase, lowercase, hLower]

-- ---------------------------------------------------------------------------
-- Letters of ASCII
-- ---------------------------------------------------------------------------

/-- Only the capital letters of ASCII have another lower case in ASCII. -/
theorem toLower_of_not_capital {c : Char} (h : ¬ (0x41 ≤ c.toNat ∧ c.toNat ≤ 0x5A)) :
    c.toLower = c := by
  unfold Char.toLower
  refine dif_neg fun hCapital => h ?_
  have hFirst : 'A'.val.toNat ≤ c.val.toNat := hCapital.1
  have hLast : c.val.toNat ≤ 'Z'.val.toNat := hCapital.2
  exact ⟨hFirst, hLast⟩

/-- What cannot tell a capital letter of ASCII from the small one cannot tell any character from
its lower case in ASCII. -/
theorem apply_toLower {β : Type} {f : Char → β}
    (hLetters : ∀ n < 26, f (Char.ofNat (0x41 + n)).toLower = f (Char.ofNat (0x41 + n)))
    (c : Char) : f c.toLower = f c := by
  by_cases hCapital : 0x41 ≤ c.toNat ∧ c.toNat ≤ 0x5A
  · have hHere := hLetters (c.toNat - 0x41) (by omega)
    rwa [Nat.add_sub_cancel' hCapital.1, Char.ofNat_toNat] at hHere
  · rw [toLower_of_not_capital hCapital]

theorem lowerChar_toLower (c : Char) : lowerChar c.toLower = lowerChar c :=
  apply_toLower (by decide) c

theorem isCased_toLower (c : Char) : isCased c.toLower = isCased c :=
  apply_toLower (by decide) c

theorem toLower_eq_sigma_iff {c : Char} : c.toLower = 'Σ' ↔ c = 'Σ' :=
  decide_eq_decide.mp (apply_toLower (f := fun c => decide (c = 'Σ')) (by decide) c)

/-- No letter of ASCII is case-ignorable. -/
theorem caseIgnorableRanges_avoid : ∀ r ∈ caseIgnorableRanges,
    r.2 < 0x41 ∨ 0x5A < r.1 ∧ r.2 < 0x61 ∨ 0x7A < r.1 := by
  decide +kernel

theorem isCaseIgnorable_letter {c : Char} {n : Nat} (hLetter : n < 26)
    (hPlace : c.toNat = 0x41 + n ∨ c.toNat = 0x61 + n) : isCaseIgnorable c = false := by
  unfold isCaseIgnorable inRanges
  refine List.any_eq_false.mpr fun r hRange => ?_
  have hAvoid := caseIgnorableRanges_avoid r hRange
  simp only [Bool.and_eq_true, decide_eq_true_eq]
  omega

theorem isCaseIgnorable_toLower (c : Char) : isCaseIgnorable c.toLower = isCaseIgnorable c := by
  have hPlaces : ∀ n < 26, (Char.ofNat (0x41 + n)).toNat = 0x41 + n ∧
      (Char.ofNat (0x41 + n)).toLower.toNat = 0x61 + n := by decide
  refine apply_toLower (fun n hLetter => ?_) c
  obtain ⟨hCapital, hSmall⟩ := hPlaces n hLetter
  rw [isCaseIgnorable_letter hLetter (Or.inl hCapital),
    isCaseIgnorable_letter hLetter (Or.inr hSmall)]

/-- A final sigma does not depend on the case of the letters around it. -/
theorem reachesCased_map_toLower (cs : List Char) :
    reachesCased (cs.map Char.toLower) = reachesCased cs := by
  have hIgnorable : isCaseIgnorable ∘ Char.toLower = isCaseIgnorable :=
    funext isCaseIgnorable_toLower
  unfold reachesCased
  rw [List.dropWhile_map, hIgnorable]
  cases cs.dropWhile isCaseIgnorable with
  | nil => rfl
  | cons c rest => exact isCased_toLower c

theorem lowercaseAfter_map_toLower (before cs : List Char) :
    lowercaseAfter (before.map Char.toLower) (cs.map Char.toLower) =
      lowercaseAfter before cs := by
  induction cs generalizing before with
  | nil => rfl
  | cons c rest ih =>
    have hRest := ih (c :: before)
    rw [List.map_cons] at hRest
    rw [List.map_cons, lowercaseAfter, lowercaseAfter, hRest]
    simp only [reachesCased_map_toLower, lowerChar_toLower, toLower_eq_sigma_iff]

/-- Lowercasing forgets the case of the letters of ASCII. -/
theorem lowercase_map_toLower (cs : List Char) :
    lowercase (cs.map Char.toLower) = lowercase cs :=
  lowercaseAfter_map_toLower [] cs

end LicenseAudit.Text
