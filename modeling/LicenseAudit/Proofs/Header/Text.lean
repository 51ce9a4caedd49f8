import LicenseAudit.Proofs.Header.Declaration
import LicenseAudit.Proofs.Notice.Range

/-!
# Headers in a text

Headers are put into byte strings of any encoding. A file that holds a text holds a text afterwards:
the header stands at its front or behind the `>` that ends its declaration, between empty lines.

* `Headed` — a text with a header in it.

## Results

* `exists_headed` — a text with a header put into it is a text with the header in it.
* `lastYear?_front` — a header is searched before the text that it stands in front of.
* `Headed.lastYear?_eq` — a header without a range of its own leaves the first range of the text.
-/

namespace LicenseAudit

open Text

-- ---------------------------------------------------------------------------
-- Texts with a header
-- ---------------------------------------------------------------------------

/-- The second text is the first one with the header in it: at its front, or behind a `>`, where it
takes the place of a line break. -/
inductive Headed (header : List Char) : List Char → List Char → Prop where
  | front (cs : List Char) : Headed header cs (header ++ '\n' :: '\n' :: cs)
  | behind (a rest : List Char) : Headed header (a ++ '>' :: rest)
      (a ++ '>' :: '\n' :: '\n' :: (header ++ '\n' :: '\n' :: rest))
  | behindBreak (a rest : List Char) : Headed header (a ++ '>' :: '\n' :: rest)
      (a ++ '>' :: '\n' :: '\n' :: (header ++ '\n' :: '\n' :: rest))
  | behindReturn (a rest : List Char) : Headed header (a ++ '>' :: '\r' :: '\n' :: rest)
      (a ++ '>' :: '\n' :: '\n' :: (header ++ '\n' :: '\n' :: rest))

/-- A line break at the front of a text is one at the front of its bytes. -/
theorem dropLineBreak_encode (z : List Char) :
    ∃ rest, dropLineBreak (encode z) = encode rest ∧
      (z = rest ∨ z = '\n' :: rest ∨ z = '\r' :: '\n' :: rest) := by
  have hFeed : ∀ {v : Bytes} {cs : List Char}, encode cs = 0x0A :: v →
      ∃ rest, cs = '\n' :: rest ∧ v = encode rest := by
    intro v cs h
    obtain ⟨a, rest, rfl, hNil, rfl⟩ :=
      exists_cut (u := []) (c := '\n') ⟨by decide, by decide⟩ h
    obtain rfl : a = [] := encode_eq_nil_iff.mp hNil.symm
    exact ⟨rest, rfl, rfl⟩
  unfold dropLineBreak
  split
  · rename_i after hBytes
    obtain ⟨a, rest, rfl, hNil, hRest⟩ :=
      exists_cut (u := []) (c := '\r') ⟨by decide, by decide⟩ hBytes
    obtain rfl : a = [] := encode_eq_nil_iff.mp hNil.symm
    obtain ⟨rest', rfl, rfl⟩ := hFeed hRest.symm
    exact ⟨rest', rfl, Or.inr (Or.inr rfl)⟩
  · rename_i after hBytes
    obtain ⟨rest, rfl, rfl⟩ := hFeed hBytes
    exact ⟨rest, rfl, Or.inr (Or.inl rfl)⟩
  · exact ⟨z, rfl, Or.inl rfl⟩

theorem gap_eq : gap = encode ['\n', '\n'] := by decide

/-- In front of a text without a declaration goes the header. -/
theorem insertHeader_front {cs : List Char} (h : Declaration.split? (encode cs) = none)
    (header : List Char) :
    insertHeader (encode cs) (encode header) = encode (header ++ '\n' :: '\n' :: cs) := by
  rw [insertHeader, h, gap_eq, ← encode_append, ← encode_append]
  simp

/-- A text with a header put into it is a text with the header in it. -/
theorem exists_headed (cs header : List Char) :
    ∃ cs', insertHeader (encode cs) (encode header) = encode cs' ∧ Headed header cs cs' := by
  cases hSplit : Declaration.split? (encode cs) with
  | none => exact ⟨_, insertHeader_front hSplit header, .front cs⟩
  | some parts =>
    obtain ⟨declaration, after⟩ := parts
    obtain ⟨hLeading, hContent⟩ := Declaration.split?_eq_some_iff.mp hSplit
    obtain ⟨front, rfl⟩ := hLeading.exists_end
    rw [List.append_assoc] at hContent
    obtain ⟨a, z, rfl, rfl, rfl⟩ := exists_cut (c := '>') ⟨by decide, by decide⟩ hContent
    have hHead : encode a ++ [0x3E] = encode (a ++ ['>']) := (encode_append a ['>']).symm
    obtain ⟨rest, hDrop, hBreak⟩ := dropLineBreak_encode z
    have hInserted : insertHeader (encode (a ++ '>' :: z)) (encode header) =
        encode (a ++ '>' :: '\n' :: '\n' :: (header ++ '\n' :: '\n' :: rest)) := by
      rw [insertHeader, hSplit, hHead]
      show encode (a ++ ['>']) ++ gap ++ encode header ++ gap ++ dropLineBreak (encode z) = _
      rw [hDrop, gap_eq, ← encode_append, ← encode_append, ← encode_append, ← encode_append]
      simp
    refine ⟨_, hInserted, ?_⟩
    rcases hBreak with rfl | rfl | rfl
    · exact .behind a _
    · exact .behindBreak a rest
    · exact .behindReturn a rest

open YearRange in
/-- The ranges of a header in front of a text come before those of the text. -/
theorem lastYear?_front {startYear : Int} (hStart : isFourDigitYear startYear = true)
    (header cs : List Char) :
    lastYear? startYear (header ++ '\n' :: '\n' :: cs) =
      (lastYear? startYear header).or (lastYear? startYear cs) := by
  rw [lastYear?_append hStart (by decide), lastYear?_cons hStart (by decide : IsBarrier '\n')]

open YearRange in
/-- A header without a range of its own, or with the last year of the text, leaves the last year as
it is. -/
theorem Headed.lastYear?_eq {header cs cs' : List Char} {startYear : Int} {last : Option Nat}
    (h : Headed header cs cs') (hStart : isFourDigitYear startYear = true)
    (hText : lastYear? startYear cs = last)
    (hHeader : lastYear? startYear header = none ∨ lastYear? startYear header = last) :
    lastYear? startYear cs' = last := by
  have hAppend := fun {c : Char} (hBarrier : IsBarrier c) => lastYear?_append hStart hBarrier
  have hFeed := lastYear?_cons hStart (by decide : IsBarrier '\n')
  have hReturn := lastYear?_cons hStart (by decide : IsBarrier '\r')
  have hBehind : ∀ a rest,
      lastYear? startYear (a ++ '>' :: '\n' :: '\n' :: (header ++ '\n' :: '\n' :: rest)) =
        (lastYear? startYear a).or
          ((lastYear? startYear header).or (lastYear? startYear rest)) := by
    intro a rest
    rw [hAppend (by decide), hFeed, hFeed, lastYear?_front hStart]
  -- the first range is that of the text before the header, of the header, or of the text behind it
  have hLast : ∀ a rest : Option Nat, a.or rest = last →
      a.or ((lastYear? startYear header).or rest) = last := by
    intro a rest hBoth
    rcases hHeader with hNone | hSame
    · rw [hNone, Option.none_or, hBoth]
    · rw [hSame, ← hBoth]
      cases a <;> cases rest <;> rfl
  cases h with
  | front =>
    rw [lastYear?_front hStart]
    exact hLast none _ hText
  | behind a rest =>
    rw [hAppend (by decide)] at hText
    rw [hBehind]
    exact hLast _ _ hText
  | behindBreak a rest =>
    rw [hAppend (by decide), hFeed] at hText
    rw [hBehind]
    exact hLast _ _ hText
  | behindReturn a rest =>
    rw [hAppend (by decide), hReturn, hFeed] at hText
    rw [hBehind]
    exact hLast _ _ hText

end LicenseAudit
