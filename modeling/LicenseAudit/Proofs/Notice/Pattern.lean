import LicenseAudit.Proofs.Notice.Search
import LicenseAudit.Proofs.Pattern.Escape
import LicenseAudit.Proofs.Pattern.Literal

/-!
# Ranges as a pattern

The ranges with a first year can also be written down as a pattern: the year, a hyphen and a group
of four digits. The search for a range finds what the pattern matches first.

* `YearRange.patternText` — the pattern as it is written;
* `YearRange.pattern` — the pattern.

## Results

* `parse_patternText` — the pattern can be read, whatever year of 32 bits it begins with.
* `matches_pattern_iff` — it matches where a range begins, up to the end of the range.
* `find?_leftmost` — the search finds the leftmost match, or none where the pattern does not occur.
-/

namespace LicenseAudit

namespace YearRange

open Pattern Reader

variable {startYear : Int} {cs : List Char} {i j : Nat}

/-- Four digits in a group. -/
def fourDigits : Pattern := seq (repeated (one (.union .none (.range 0x30 0x39))) 4 (some 4)) empty

/-- The ranges with the first year. -/
def pattern (startYear : Int) : Pattern :=
  Pattern.sequence ((opening startYear).map character ++ [fourDigits])

/-- A hyphen and four digits in a group, as they are written in a pattern. -/
def digitsText : String := "-([0-9]\x7b4\x7d)"

/-- The pattern as it is written: the year, with a backslash where it needs one, and what stands
behind it. -/
def patternText (startYear : Int) : String := escaped (toString startYear) ++ digitsText

theorem contains_digits {c : Char} :
    (CharSet.union .none (.range 0x30 0x39)).contains c.toNat = true ↔ c.isDigit = true := by
  rw [Char.isDigit_iff_toNat]
  simp [CharSet.contains, CharSet.none, CharSet.range, Text.CodeSet.contains,
    Text.CodeRun.contains, Nat.mod_one]

theorem fourDigits_matches_iff : fourDigits.Matches cs.toArray i j ↔
    i + 4 = j ∧ ∃ digits, isYear digits = true ∧ digits <+: cs.drop i := by
  have hRow : fourDigits.Matches cs.toArray i j ↔
      Row ((one (.union .none (.range 0x30 0x39))).Matches cs.toArray) 4 i j := by
    rw [← matches_exactly_iff]
    exact ⟨fun ⟨_, h, hEnd⟩ => hEnd ▸ h, fun h => ⟨j, h, rfl⟩⟩
  simp only [hRow, row_one_iff, contains_digits, isYear_iff, and_assoc]

/-- The pattern matches where a range begins, up to the end of the range. -/
theorem matches_pattern_iff : (pattern startYear).Matches cs.toArray i j ↔
    i + (opening startYear).length + 4 = j ∧ Opens (opening startYear) (cs.drop i) := by
  have hSplit : (pattern startYear).Matches cs.toArray i j ↔
      opening startYear <+: cs.drop i ∧
        fourDigits.Matches cs.toArray (i + (opening startYear).length) j := by
    rw [pattern, matches_sequence_append, sequence_character]
    simp only [Matches, literal_matches_iff, Pattern.sequence, List.foldr_cons, List.foldr_nil]
    constructor
    · rintro ⟨_, ⟨rfl, hFront⟩, _, hDigits, rfl⟩
      exact ⟨hFront, hDigits⟩
    · rintro ⟨hFront, hDigits⟩
      exact ⟨_, ⟨rfl, hFront⟩, j, hDigits, rfl⟩
  rw [hSplit, fourDigits_matches_iff, opens_iff, ← List.drop_drop]
  constructor
  · rintro ⟨⟨rest, hRest⟩, rfl, digits, hYear, hHere⟩
    rw [← hRest, List.drop_left] at hHere
    exact ⟨rfl, digits, hYear, hRest ▸ (List.prefix_append_right_inj _).mpr hHere⟩
  · rintro ⟨rfl, digits, hYear, hHere⟩
    obtain ⟨rest, hRest⟩ := (List.prefix_append _ digits).trans hHere
    rw [← hRest, List.prefix_append_right_inj] at hHere
    refine ⟨⟨rest, hRest⟩, rfl, digits, hYear, ?_⟩
    rw [← hRest, List.drop_left]
    exact hHere

-- ---------------------------------------------------------------------------
-- Reading the pattern
-- ---------------------------------------------------------------------------

/-- What the pattern is read as, last first. -/
def items (startYear : Int) : List Item :=
  .pattern ⟨fourDigits, 3⟩ :: .flat (character '-') ::
    (((yearText startYear).map character).map .flat).reverse

theorem pattern_items (startYear : Int) :
    (sequenceOf (items startYear)).pattern = pattern startYear := by
  simp [items, sequenceOf, pattern, opening, Item.flat, Item.toPattern, Function.comp_def]

theorem depth_items_le (startYear : Int) : (sequenceOf (items startYear)).depth ≤ 1 + 3 := by
  show nesting ((items startYear).map Item.depth) ≤ 1 + 3
  refine nesting_le fun depth hMem => ?_
  simp only [items, List.map_cons, List.mem_cons, List.map_reverse, List.mem_reverse,
    List.mem_map] at hMem
  rcases hMem with rfl | rfl | ⟨item, ⟨p, -, rfl⟩, rfl⟩
  · exact Nat.le_refl 3
  · exact Nat.zero_le 3
  · exact Nat.zero_le 3

/-- What stands behind the year is read as a hyphen and a group. -/
theorem run_readItems_digits (fuel : Nat) (front : List Item) :
    (readItems (fuel + 12) [] front).run ⟨digitsText.toList, {}, []⟩ =
      .ok (sequenceOf (.pattern ⟨fourDigits, 3⟩ :: .flat (character '-') :: front),
        ⟨[], {}, []⟩) := rfl

theorem toList_patternText (startYear : Int) : (patternText startYear).toList =
    (yearText startYear).flatMap escapedChar ++ digitsText.toList := by
  rw [patternText, escaped, String.toList_append, String.toList_ofList]
  rfl

theorem run_readAll_patternText (startYear : Int) :
    (readAll (2 * (patternText startYear).length + 2)).run
      ⟨(patternText startYear).toList, {}, []⟩ =
      .ok (sequenceOf (items startYear), ⟨[], {}, []⟩) := by
  have hYear := reads_escaped (yearText startYear)
  -- one call for each character of the year and twelve for what stands behind it
  obtain ⟨extra, hEnough⟩ : ∃ extra, 2 * (patternText startYear).length + 2 =
      ((yearText startYear).map character).length + (extra + 12) := by
    have hShort := hYear.short
    have hSize : (patternText startYear).length =
        ((yearText startYear).flatMap escapedChar).length + 11 := by
      rw [← String.length_toList, toList_patternText, List.length_append]
      rfl
    exact ⟨2 * (patternText startYear).length - 10 - ((yearText startYear).map character).length,
      by omega⟩
  have hRun := hYear.run (extra + 12) [] digitsText.toList
  rw [run_readItems_digits, List.append_nil] at hRun
  rw [readAll, StateT.run_bind, hEnough, toList_patternText, hRun]
  rfl

/-- A year of 32 bits is written with at most eleven characters. -/
theorem length_yearText_le (hLow : -Int.pow 2 31 ≤ startYear)
    (hHigh : startYear < Int.pow 2 31) : (yearText startYear).length ≤ 11 := by
  have hPower : Int.pow 2 31 = 2147483648 := by decide
  have hNumber : ∀ n : Nat, n ≤ 2147483648 → (Nat.toDigits 10 n).length ≤ 10 := by
    intro n hSmall
    rw [Nat.length_toDigits_le_iff (by decide) (by decide)]
    omega
  cases startYear with
  | ofNat n =>
    rw [Int.ofNat_eq_natCast] at hHigh ⊢
    rw [yearText_natCast]
    exact (hNumber n (by omega)).trans (by decide)
  | negSucc n =>
    rw [yearText_negSucc, List.length_cons]
    exact Nat.succ_le_succ (hNumber (n + 1) (by omega))

/-- So the pattern is small. -/
theorem cost_pattern_le (hLow : -Int.pow 2 31 ≤ startYear) (hHigh : startYear < Int.pow 2 31) :
    (pattern startYear).cost ≤ costLimit := by
  have hOpening : totalCost ((opening startYear).map character) ≤ 12 * (4 * CharSet.stateSize) := by
    rw [← cost_sequence, sequence_character]
    refine (cost_literal_le _).trans (Nat.mul_le_mul_right _ ?_)
    rw [opening, List.length_append, List.length_singleton]
    exact Nat.succ_le_succ (length_yearText_le hLow hHigh)
  have hDigits : totalCost [fourDigits] + 12 * (4 * CharSet.stateSize) ≤ costLimit := by
    decide +kernel
  rw [pattern, cost_sequence, totalCost_append]
  omega

/-- The pattern can be read, whatever year of 32 bits it begins with. -/
theorem parse_patternText (hLow : -Int.pow 2 31 ≤ startYear) (hHigh : startYear < Int.pow 2 31) :
    parse (patternText startYear) = .ok (pattern startYear) := by
  have hShallow : ¬ nestingLimit < (sequenceOf (items startYear)).depth :=
    Nat.not_lt.mpr ((depth_items_le startYear).trans (by decide))
  have hSmall : ¬ costLimit < (pattern startYear).cost :=
    Nat.not_lt.mpr (cost_pattern_le hLow hHigh)
  simp only [parse, run_readAll_patternText, ok_bind, if_neg hShallow, pattern_items, if_neg hSmall]
  rfl

-- ---------------------------------------------------------------------------
-- The leftmost match
-- ---------------------------------------------------------------------------

/-- The pattern is found where the search finds a range. -/
theorem find?_eq_none_iff_foundIn {text : String} : find? startYear text.toList = none ↔
    (pattern startYear).foundIn text.toList = false := by
  rw [← Bool.not_eq_true, foundIn_iff, find?, findFrom?_eq_none_iff]
  constructor
  · rintro hNone ⟨i, -, j, hMatches⟩
    obtain ⟨-, hOpens⟩ := matches_pattern_iff.mp hMatches
    obtain ⟨digits, hYear, hHere⟩ := opens_iff.mp hOpens
    exact hNone digits hYear (hHere.isInfix.trans (List.drop_suffix i _).isInfix)
  · rintro hNot digits hYear ⟨a, after, hText⟩
    refine hNot ⟨a.length, ?_, _, matches_pattern_iff.mpr ⟨rfl, digits, after, ?_, hYear⟩⟩
    · rw [← hText, List.append_assoc, List.length_append]
      exact Nat.le_add_right _ _
    · rw [← hText, List.append_assoc a, List.drop_left]

/-- No match of the pattern begins before the range that is found. -/
theorem le_of_matches {r : YearRange} (h : find? startYear cs = some r)
    (hMatches : (pattern startYear).Matches cs.toArray i j) :
    r.before.length ≤ i + (opening startYear).length := by
  obtain ⟨front, hText, hBefore, -, hFirst⟩ := findFrom?_eq_some_iff.mp h
  obtain ⟨rfl, hOpens⟩ := matches_pattern_iff.mp hMatches
  rw [hBefore, List.length_append, Nat.add_le_add_iff_right]
  by_contra hBefore
  refine hFirst (front.take i) (front.drop i) (List.take_append_drop i front).symm ?_ ?_
  · exact mt List.drop_eq_nil_iff.mp hBefore
  · rwa [hText, List.drop_append_of_le_length (by omega)] at hOpens

/-- **The search finds the leftmost match.** The pattern of a year of 32 bits can be read. In every
text the search finds the match of the pattern that begins first, and it finds none just if the
pattern is not found. -/
theorem find?_leftmost (hLow : -Int.pow 2 31 ≤ startYear) (hHigh : startYear < Int.pow 2 31) :
    ∃ p, parse (patternText startYear) = .ok p ∧ ∀ text : String,
      (find? startYear text.toList = none ↔ p.foundIn text.toList = false) ∧
      ∀ r, find? startYear text.toList = some r →
        ∃ i, i + (opening startYear).length = r.before.length ∧
          p.Matches text.toList.toArray i (r.before ++ r.digits).length ∧
          ∀ i' j', p.Matches text.toList.toArray i' j' → i ≤ i' := by
  refine ⟨pattern startYear, parse_patternText hLow hHigh, fun text =>
    ⟨find?_eq_none_iff_foundIn, fun r hFind => ?_⟩⟩
  obtain ⟨front, hText, hBefore, hYear, -⟩ := findFrom?_eq_some_iff.mp hFind
  have hLength : front.length + (opening startYear).length = r.before.length := by
    rw [hBefore, List.length_append]
  refine ⟨front.length, hLength, matches_pattern_iff.mpr ⟨?_, ?_⟩, fun i' j' hMatches => ?_⟩
  · rw [hLength, List.length_append, length_of_isYear hYear]
  · rw [hText, List.drop_left]
    exact ⟨r.digits, r.after, rfl, hYear⟩
  · have hLeast := le_of_matches hFind hMatches
    omega

end YearRange

end LicenseAudit
