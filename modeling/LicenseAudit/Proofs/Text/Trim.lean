import LicenseAudit.Text.Blank
import Mathlib.Data.List.Basic
import Mathlib.Data.List.TakeWhile

/-!
# White space at the end of a text

Trimming a text removes the white space at its end and nothing else. So it is decided by the last
visible character, and of what stands in the text it can only cut off what reaches into that white
space.

## Results

* `trimEnd_eq_nil_iff` — nothing is left of a text that is all white space.
* `trimEnd_eq_self_iff` — nothing is trimmed from a text that ends in no white space.
* `infix_trimEnd_iff` — what stands in a trimmed text.
-/

namespace LicenseAudit.Text

variable {m text : List Char}

theorem trimEnd_eq_nil_iff : trimEnd text = [] ↔ ∀ c ∈ text, isBlank c = true := by
  simp [trimEnd]

/-- What stands behind a text is trimmed first. -/
theorem trimEnd_append (a b : List Char) :
    trimEnd (a ++ b) = if trimEnd b = [] then trimEnd a else a ++ trimEnd b := by
  rw [trimEnd, trimEnd, trimEnd, List.reverse_append, List.dropWhile_append]
  by_cases hBlank : b.reverse.dropWhile isBlank = []
  · simp [hBlank]
  · simp [hBlank, List.isEmpty_iff]

/-- A trimmed text ends in no white space. -/
theorem isBlank_of_getLast?_trimEnd {c : Char} (h : (trimEnd text).getLast? = some c) :
    isBlank c = false := by
  rw [trimEnd, List.getLast?_reverse] at h
  have hHead := List.head?_dropWhile_not isBlank text.reverse
  rw [h] at hHead
  exact hHead

/-- Nothing is trimmed from a text exactly if it ends in no white space. -/
theorem trimEnd_eq_self_iff :
    trimEnd text = text ↔ ∀ c, text.getLast? = some c → isBlank c = false := by
  constructor
  · intro hSelf c hLast
    rw [← hSelf] at hLast
    exact isBlank_of_getLast?_trimEnd hLast
  · intro hVisible
    rcases List.eq_nil_or_concat' text with rfl | ⟨front, c, rfl⟩
    · rfl
    · have hLast : isBlank c = false := hVisible c List.getLast?_concat
      rw [trimEnd_append]
      simp [trimEnd, hLast]

/-- **What stands in a trimmed text.** It stands in the text and does not reach into the white space
at the end: it ends in none itself, or something visible stands behind it. -/
theorem infix_trimEnd_iff : m <:+: trimEnd text ↔
    ∃ a b, text = a ++ m ++ b ∧ (trimEnd m = m ∨ ∃ c ∈ b, isBlank c = false) := by
  constructor
  · rintro ⟨a, b, hTrimmed⟩
    obtain ⟨tail, hText, -⟩ := trimEnd_append_blank text
    refine ⟨a, b ++ tail, by rw [hText, ← hTrimmed, List.append_assoc (a ++ m)], ?_⟩
    have hVisible : ∀ {c}, (a ++ m ++ b).getLast? = some c → isBlank c = false := by
      rw [hTrimmed]
      exact isBlank_of_getLast?_trimEnd
    rcases List.eq_nil_or_concat' b with rfl | ⟨front, c, rfl⟩
    · refine Or.inl (trimEnd_eq_self_iff.mpr fun c hLast => hVisible ?_)
      rw [List.append_nil, List.getLast?_append, hLast]
      rfl
    · refine Or.inr ⟨c, by simp, hVisible ?_⟩
      rw [← List.append_assoc, List.getLast?_concat]
  · rintro ⟨a, b, rfl, hEnd⟩
    rw [trimEnd_append]
    split
    · -- nothing visible stands behind
      rename_i hBlank
      rcases hEnd with hSelf | ⟨c, hMem, hVisible⟩
      · rw [trimEnd_append, hSelf]
        split
        · rename_i hNil
          exact hNil ▸ List.nil_infix
        · exact (List.suffix_append a m).isInfix
      · rw [trimEnd_eq_nil_iff.mp hBlank c hMem] at hVisible
        cases hVisible
    · exact List.infix_append a m (trimEnd b)

end LicenseAudit.Text
