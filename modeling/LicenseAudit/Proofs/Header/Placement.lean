import LicenseAudit.Proofs.Header.Declaration

/-!
# Where a header goes

A header goes to the front of a file, or behind what is read as its declaration. The one line break
that may follow the declaration gives way to the empty lines around the header, and every other byte
of the file stays, in its order. A further header goes to the same place.

* `Cut` — a content cut behind its declaration and the line break that follows it;
* `Placed` — a content with a header in its place.

## Results

* `insertHeader_of_cut`, `insertHeader_of_plain` — the two places.
* `Cut.again` — a content with a header is cut where it was cut before.
* `insertHeader_placed` — every header goes to its place, and nothing is lost.
-/

namespace LicenseAudit

open Declaration

-- ---------------------------------------------------------------------------
-- Line breaks
-- ---------------------------------------------------------------------------

/-- The first bytes are the line break that stands before the rest, or none if none stands there. -/
def Breaks (lineBreak rest : Bytes) : Prop :=
  lineBreak = [0x0D, 0x0A] ∨ lineBreak = [0x0A] ∨
    lineBreak = [] ∧ ¬ [0x0D, 0x0A] <+: rest ∧ ¬ [0x0A] <+: rest

theorem Breaks.dropLineBreak_eq {lineBreak rest : Bytes} (h : Breaks lineBreak rest) :
    dropLineBreak (lineBreak ++ rest) = rest := by
  rcases h with rfl | rfl | ⟨rfl, hReturn, hFeed⟩
  · rfl
  · rfl
  · rw [List.nil_append]
    unfold dropLineBreak
    split
    · exact absurd ⟨_, rfl⟩ hReturn
    · exact absurd ⟨_, rfl⟩ hFeed
    · rfl

theorem exists_breaks (after : Bytes) :
    ∃ lineBreak, Breaks lineBreak (dropLineBreak after) ∧
      after = lineBreak ++ dropLineBreak after := by
  unfold dropLineBreak
  split
  · exact ⟨[0x0D, 0x0A], Or.inl rfl, rfl⟩
  · exact ⟨[0x0A], Or.inr (Or.inl rfl), rfl⟩
  · rename_i hReturn hFeed
    refine ⟨[], Or.inr (Or.inr ⟨rfl, ?_, ?_⟩), rfl⟩
    · rintro ⟨rest, rfl⟩
      exact hReturn rest rfl
    · rintro ⟨rest, rfl⟩
      exact hFeed rest rfl

-- ---------------------------------------------------------------------------
-- The two places
-- ---------------------------------------------------------------------------

/-- The content falls into what is read as its declaration, the line break behind it, if there is
one, and the rest. -/
structure Cut (content d lineBreak rest : Bytes) : Prop where
  leading : Leading d
  whole   : content = d ++ lineBreak ++ rest
  breaks  : Breaks lineBreak rest

variable {content d lineBreak rest : Bytes}

theorem exists_cut_of_leading (hLeading : Leading d) (hPrefix : d <+: content) :
    ∃ lineBreak rest, Cut content d lineBreak rest := by
  obtain ⟨after, rfl⟩ := hPrefix
  obtain ⟨lineBreak, hBreaks, hAfter⟩ := exists_breaks after
  refine ⟨lineBreak, dropLineBreak after, hLeading, ?_, hBreaks⟩
  rw [List.append_assoc, ← hAfter]

/-- Behind a declaration goes the header, in the place of the line break. -/
theorem insertHeader_of_cut (h : Cut content d lineBreak rest) (header : Bytes) :
    insertHeader content header = d ++ gap ++ header ++ gap ++ rest := by
  have hSplit : split? content = some (d, lineBreak ++ rest) :=
    split?_eq_some_iff.mpr ⟨h.leading, by rw [h.whole, List.append_assoc]⟩
  rw [insertHeader, hSplit]
  simp only [h.breaks.dropLineBreak_eq]

/-- To the front of a content without a declaration goes the header. -/
theorem insertHeader_of_plain (h : ∀ d, Leading d → ¬ d <+: content) (header : Bytes) :
    insertHeader content header = header ++ gap ++ content := by
  rw [insertHeader, split?_eq_none_iff.mpr h]

/-- A content with a header is cut where it was cut before. -/
theorem Cut.again (h : Cut content d lineBreak rest) (header : Bytes) :
    Cut (insertHeader content header) d [0x0A] (0x0A :: header ++ gap ++ rest) := by
  refine ⟨h.leading, ?_, Or.inr (Or.inl rfl)⟩
  rw [insertHeader_of_cut h, gap]
  simp

-- ---------------------------------------------------------------------------
-- Headers in their place
-- ---------------------------------------------------------------------------

/-- The result is the content with the header in its place. A content has one declaration at most.
If it has one, the header stands behind it, in the place of the line break, and a second header
would stand there, too, before the first one; otherwise it stands at the front. The rest of the
content is kept in its order. -/
structure Placed (content header result : Bytes) : Prop where
  unique    : ∀ d d', Leading d → Leading d' → d <+: content → d' <+: content → d = d'
  cut       : ∀ d, Leading d → d <+: content → ∃ lineBreak rest, Cut content d lineBreak rest
  behind    : ∀ d lineBreak rest, Cut content d lineBreak rest →
    result = d ++ gap ++ header ++ gap ++ rest
  kept      : ∀ d lineBreak rest, Cut content d lineBreak rest → (d ++ rest).Sublist result
  second    : ∀ d lineBreak rest, Cut content d lineBreak rest → ∀ other,
    insertHeader result other = d ++ gap ++ other ++ gap ++ (0x0A :: header ++ gap ++ rest)
  front     : (∀ d, Leading d → ¬ d <+: content) → result = header ++ gap ++ content
  keptWhole : (∀ d, Leading d → ¬ d <+: content) → content.Sublist result

/-- **Every header goes to its place**, whatever the content and the header are, and nothing is
lost but one line break. -/
theorem insertHeader_placed (content header : Bytes) :
    Placed content header (insertHeader content header) where
  unique _ _ h h' := h.unique h'
  cut _ := exists_cut_of_leading
  behind _ _ _ h := insertHeader_of_cut h header
  kept := by
    intro d lineBreak rest h
    rw [insertHeader_of_cut h]
    refine List.Sublist.append ?_ (List.Sublist.refl rest)
    simp only [List.append_assoc]
    exact List.sublist_append_left ..
  second _ _ _ h := insertHeader_of_cut (h.again header)
  front h := insertHeader_of_plain h header
  keptWhole := by
    intro h
    rw [insertHeader_of_plain h]
    exact List.sublist_append_right ..

end LicenseAudit
