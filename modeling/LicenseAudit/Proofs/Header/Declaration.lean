import LicenseAudit.Header.Insert
import LicenseAudit.Proofs.Text.Utf8

/-!
# What is read as a declaration

A file may begin with a byte order mark and with white space. What is read as its declaration stands
behind these, is opened by `<?xml` and ends at the first `>`, before which a `?` must stand. None of
this depends on the bytes behind it, so that a file begins with one declaration at most.

* `Declaration.Margin` — what may stand before the markup of a file;
* `Declaration.Leading` — what is read as a declaration, with its margin.

## Results

* `Declaration.exists_blank` — what passing over white space passes over.
* `Declaration.split?_eq_some_iff` — a file is split behind what is read as its declaration.
* `Declaration.Leading.unique` — there is one at most.
-/

namespace LicenseAudit

open Text

namespace Declaration

-- ---------------------------------------------------------------------------
-- White space in front
-- ---------------------------------------------------------------------------

/-- The bytes that are passed over first are a character of white space. -/
theorem exists_blank_char {content : Bytes} (h : 0 < blankSize content) :
    ∃ c, isBlank c = true ∧ content.take (blankSize content) = encode [c] := by
  unfold blankSize at h ⊢
  generalize hFind : List.find? _ [1, 2, 3] = found at h ⊢
  cases found with
  | none => exact absurd h (Nat.lt_irrefl 0)
  | some size =>
    have hBlank := List.find?_some hFind
    split at hBlank
    · rename_i c hDecode
      exact ⟨c, hBlank, (encode_of_decode? hDecode).symm⟩
    · cases hBlank

/-- What is passed over is white space. -/
theorem exists_blank (content : Bytes) :
    ∃ blanks, (∀ c ∈ blanks, isBlank c = true) ∧ content = encode blanks ++ dropBlank content := by
  induction content using dropBlank.induct with
  | case1 content h ih =>
    obtain ⟨blanks, hBlanks, hRest⟩ := ih
    obtain ⟨c, hBlank, hHead⟩ := exists_blank_char h.1
    refine ⟨c :: blanks, ?_, ?_⟩
    · intro d hMem
      rcases List.mem_cons.mp hMem with rfl | hMem
      · exact hBlank
      · exact hBlanks d hMem
    · rw [dropBlank, dif_pos h, encode_cons, ← hHead, List.append_assoc, ← hRest,
        List.take_append_drop]
  | case2 content h =>
    refine ⟨[], fun c hMem => absurd hMem List.not_mem_nil, ?_⟩
    rw [dropBlank, dif_neg h]
    rfl

/-- A character of white space takes at most three bytes. -/
theorem length_encode_blank {c : Char} (h : isBlank c = true) :
    (encode [c]).length ∈ [1, 2, 3] := by
  have hLow : c.toNat ≤ 0x3000 := by
    rw [isBlank, List.any_eq_true] at h
    obtain ⟨r, hMem, hRange⟩ := h
    simp only [blankRanges, List.mem_cons, List.not_mem_nil, or_false] at hMem
    simp only [Bool.and_eq_true, decide_eq_true_eq] at hRange
    rcases hMem with rfl | rfl | rfl | rfl | rfl | rfl | rfl | rfl | rfl | rfl <;> omega
  have hThree : c.val ≤ 65535 := by
    rw [UInt32.le_iff_toNat_le]
    exact Nat.le_trans hLow (by decide)
  rw [encode, List.flatMap_singleton, String.length_utf8EncodeChar, Char.utf8Size]
  simp only [List.mem_cons, List.not_mem_nil, or_false]
  split
  · exact Or.inl rfl
  · split
    · exact Or.inr (Or.inl rfl)
    · split
      · exact Or.inr (Or.inr rfl)
      · rename_i hLong
        exact absurd hThree hLong

/-- White space at the front is seen. -/
theorem blankSize_pos {c : Char} (h : isBlank c = true) (rest : Bytes) :
    0 < blankSize (encode [c] ++ rest) := by
  unfold blankSize
  generalize hFind : List.find? _ [1, 2, 3] = found
  cases found with
  | none =>
    have hNot := List.find?_eq_none.mp hFind _ (length_encode_blank h)
    rw [List.take_left, decode?_encode] at hNot
    exact absurd h hNot
  | some size =>
    have hMem := List.mem_of_find?_eq_some hFind
    simp only [List.mem_cons, List.not_mem_nil, or_false] at hMem
    rcases hMem with rfl | rfl | rfl <;> decide

/-- Where a character is passed over it is white space, and nothing else is passed over with it. -/
theorem eq_of_blankSize_pos {c : Char} {rest : Bytes} (h : 0 < blankSize (encode [c] ++ rest)) :
    isBlank c = true ∧ (encode [c] ++ rest).drop (blankSize (encode [c] ++ rest)) = rest := by
  obtain ⟨d, hBlank, hTake⟩ := exists_blank_char h
  have hSplit := List.take_append_drop (blankSize (encode [c] ++ rest)) (encode [c] ++ rest)
  rw [hTake] at hSplit
  obtain ⟨rfl, hDrop⟩ := encode_char_append_inj hSplit
  exact ⟨hBlank, hDrop⟩

-- ---------------------------------------------------------------------------
-- The margin
-- ---------------------------------------------------------------------------

/-- What may stand before the markup of a file: a byte order mark, and white space. -/
def Margin (front : Bytes) : Prop :=
  ∃ mark blanks, (mark = [] ∨ mark = byteOrderMark) ∧ (∀ c ∈ blanks, isBlank c = true) ∧
    front = mark ++ encode blanks

theorem opening_append (rest : Bytes) :
    opening ++ rest = encode ['<'] ++ (encode "?xml".toList ++ rest) := rfl

/-- All the white space before an opening is passed over. -/
theorem dropBlank_append {blanks : List Char} (h : ∀ c ∈ blanks, isBlank c = true) (rest : Bytes) :
    dropBlank (encode blanks ++ (opening ++ rest)) = opening ++ rest := by
  induction blanks with
  | nil =>
    show dropBlank (opening ++ rest) = _
    rw [dropBlank, dif_neg]
    rintro ⟨hPos, -⟩
    rw [opening_append] at hPos
    exact absurd (eq_of_blankSize_pos hPos).1 (by decide)
  | cons c more ih =>
    obtain ⟨hBlank, hMore⟩ := List.forall_mem_cons.mp h
    have hPos := blankSize_pos hBlank (encode more ++ (opening ++ rest))
    have hChar : encode [c] ≠ [] := fun hNil => List.cons_ne_nil c [] (encode_eq_nil_iff.mp hNil)
    have hSome : 0 < (encode [c] ++ (encode more ++ (opening ++ rest))).length := by
      rw [List.length_append]
      exact Nat.add_pos_left (List.length_pos_iff.mpr hChar) _
    rw [encode_cons, List.append_assoc, dropBlank, dif_pos ⟨hPos, hSome⟩,
      (eq_of_blankSize_pos hPos).2, ih hMore]

/-- The mark before white space and an opening is passed over, and nothing if there is none. -/
theorem dropMark_append {mark : Bytes} {blanks : List Char}
    (hMark : mark = [] ∨ mark = byteOrderMark) (h : ∀ c ∈ blanks, isBlank c = true)
    (rest : Bytes) :
    dropMark (mark ++ (encode blanks ++ (opening ++ rest))) =
      encode blanks ++ (opening ++ rest) := by
  rcases hMark with rfl | rfl
  · -- what comes first is white space or `<`, not the mark
    rw [List.nil_append, dropMark, if_neg]
    intro hPrefix
    obtain ⟨behind, hBehind⟩ := List.isPrefixOf_iff_prefix.mp hPrefix
    rw [byteOrderMark] at hBehind
    cases blanks with
    | nil =>
      have hFirst := hBehind.trans (opening_append rest)
      exact absurd (encode_char_append_inj hFirst).1 (by decide)
    | cons c more =>
      rw [encode_cons c more, List.append_assoc] at hBehind
      obtain ⟨rfl, -⟩ := encode_char_append_inj hBehind
      exact absurd (h _ (List.mem_cons_self ..)) (by decide)
  · rw [dropMark, if_pos (List.isPrefixOf_iff_prefix.mpr (List.prefix_append ..)), List.drop_left]

theorem exists_mark (content : Bytes) :
    ∃ mark, (mark = [] ∨ mark = byteOrderMark) ∧ content = mark ++ dropMark content := by
  unfold dropMark
  split
  · rename_i hMark
    obtain ⟨rest, hRest⟩ := List.isPrefixOf_iff_prefix.mp hMark
    exact ⟨byteOrderMark, Or.inr rfl, by rw [← hRest, List.drop_left]⟩
  · exact ⟨[], Or.inl rfl, rfl⟩

/-- Behind the margin stands what is looked at for an opening. -/
theorem exists_margin (content : Bytes) :
    ∃ front, Margin front ∧ content = front ++ dropBlank (dropMark content) := by
  obtain ⟨mark, hMark, hContent⟩ := exists_mark content
  obtain ⟨blanks, hBlanks, hInner⟩ := exists_blank (dropMark content)
  refine ⟨mark ++ encode blanks, ⟨mark, blanks, hMark, hBlanks, rfl⟩, ?_⟩
  rw [List.append_assoc, ← hInner, ← hContent]

/-- Before an opening the margin is passed over, and nothing else. -/
theorem Margin.dropBlank_eq {front : Bytes} (h : Margin front) (rest : Bytes) :
    dropBlank (dropMark (front ++ (opening ++ rest))) = opening ++ rest := by
  obtain ⟨mark, blanks, hMark, hBlanks, rfl⟩ := h
  rw [List.append_assoc, dropMark_append hMark hBlanks, dropBlank_append hBlanks]

-- ---------------------------------------------------------------------------
-- The declaration
-- ---------------------------------------------------------------------------

/-- The bytes that close a declaration. -/
def closing : Bytes := encode "?>".toList

theorem closing_eq : closing = [0x3F, 0x3E] := by decide

/-- What is read as a declaration, with its margin: it is opened, and closed at the first `>`. -/
def Leading (d : Bytes) : Prop :=
  ∃ front body, Margin front ∧ 0x3E ∉ body ∧ d = front ++ (opening ++ (body ++ closing))

/-- What is cut at the first `>`, if a `?` stands before it, is closed there. -/
theorem exists_body {rest after : Bytes}
    (h : (match rest.dropWhile (· != 0x3E) with
      | _ :: after => if (rest.takeWhile (· != 0x3E)).getLast? = some 0x3F then some after else none
      | [] => none) = some after) :
    ∃ body, 0x3E ∉ body ∧ rest = body ++ (closing ++ after) := by
  have hCut := List.takeWhile_append_dropWhile (p := (· != 0x3E)) (l := rest)
  have hNot := List.head?_dropWhile_not (· != 0x3E) rest
  have hInside := List.all_takeWhile (p := (· != 0x3E)) (l := rest)
  generalize rest.takeWhile (· != 0x3E) = inside at h hCut hInside
  generalize rest.dropWhile (· != 0x3E) = behind at h hCut hNot
  cases behind with
  | nil => cases h
  | cons b more =>
    obtain rfl : b = 0x3E := by simpa using hNot
    obtain ⟨hLast, hMore⟩ := Option.ite_none_right_eq_some.mp h
    obtain rfl := Option.some.inj hMore
    obtain ⟨body, rfl⟩ := List.getLast?_eq_some_iff.mp hLast
    refine ⟨body, fun hMem => ?_, ?_⟩
    · have hPlain := List.all_eq_true.mp hInside _ (List.mem_append_left _ hMem)
      exact absurd hPlain (by decide)
    · rw [← hCut, closing_eq]
      simp

/-- Something follows what is read as a declaration just if it is read as one. -/
theorem rest?_eq_some_iff {content after : Bytes} :
    rest? content = some after ↔ ∃ d, Leading d ∧ content = d ++ after := by
  constructor
  · intro h
    obtain ⟨front, hMargin, hContent⟩ := exists_margin content
    rw [rest?] at h
    generalize dropBlank (dropMark content) = inner at h hContent
    simp only at h
    split at h
    · rename_i hOpening
      obtain ⟨rest, rfl⟩ := List.isPrefixOf_iff_prefix.mp hOpening
      rw [List.drop_left] at h
      obtain ⟨body, hBody, rfl⟩ := exists_body h
      refine ⟨_, ⟨front, body, hMargin, hBody, rfl⟩, ?_⟩
      rw [hContent]
      simp
    · cases h
  · rintro ⟨_, ⟨front, body, hMargin, hBody, rfl⟩, rfl⟩
    have hInside : ∀ b ∈ body ++ [0x3F], (b != 0x3E) = true := by
      intro b hMem
      rcases List.mem_append.mp hMem with hMem | hMem
      · exact bne_iff_ne.mpr fun hEnd => hBody (hEnd ▸ hMem)
      · rw [List.mem_singleton.mp hMem]
        decide
    have hContent : front ++ (opening ++ (body ++ closing)) ++ after =
        front ++ (opening ++ ((body ++ [0x3F]) ++ 0x3E :: after)) := by simp [closing_eq]
    rw [hContent, rest?, hMargin.dropBlank_eq]
    simp only [List.isPrefixOf_iff_prefix.mpr (List.prefix_append opening _), if_true,
      List.drop_left]
    rw [List.takeWhile_append_of_pos hInside, List.dropWhile_append_of_pos hInside]
    simp

/-- **A file is split behind what is read as its declaration.** -/
theorem split?_eq_some_iff {content d after : Bytes} :
    split? content = some (d, after) ↔ Leading d ∧ content = d ++ after := by
  have hTake : ∀ {d after : Bytes}, (d ++ after).take ((d ++ after).length - after.length) = d := by
    intro d after
    rw [List.length_append, Nat.add_sub_cancel, List.take_left]
  rw [split?, Option.map_eq_some_iff]
  constructor
  · rintro ⟨after', hRest, hParts⟩
    obtain ⟨d', hLeading, rfl⟩ := rest?_eq_some_iff.mp hRest
    rw [hTake] at hParts
    obtain ⟨rfl, rfl⟩ := Prod.mk.inj hParts
    exact ⟨hLeading, rfl⟩
  · rintro ⟨hLeading, rfl⟩
    exact ⟨after, rest?_eq_some_iff.mpr ⟨d, hLeading, rfl⟩, by rw [hTake]⟩

/-- A file that begins with no declaration is not split. -/
theorem split?_eq_none_iff {content : Bytes} :
    split? content = none ↔ ∀ d, Leading d → ¬ d <+: content := by
  constructor
  · rintro hNone d hLeading ⟨after, hContent⟩
    have hSome := split?_eq_some_iff.mpr ⟨hLeading, hContent.symm⟩
    rw [hNone] at hSome
    cases hSome
  · intro h
    cases hSplit : split? content with
    | none => rfl
    | some parts =>
      obtain ⟨hLeading, hContent⟩ := split?_eq_some_iff.mp hSplit
      exact absurd ⟨parts.2, hContent.symm⟩ (h parts.1 hLeading)

/-- A file begins with one declaration at most. -/
theorem Leading.unique {content d d' : Bytes} (h : Leading d) (h' : Leading d')
    (hPrefix : d <+: content) (hPrefix' : d' <+: content) : d = d' := by
  obtain ⟨after, hContent⟩ := hPrefix
  obtain ⟨after', hContent'⟩ := hPrefix'
  have hSplit := split?_eq_some_iff.mpr ⟨h, hContent.symm⟩
  have hSplit' := split?_eq_some_iff.mpr ⟨h', hContent'.symm⟩
  exact (Prod.mk.inj (Option.some.inj (hSplit.symm.trans hSplit'))).1

/-- A declaration ends with the byte that the character `>` stands for. -/
theorem Leading.exists_end {d : Bytes} (h : Leading d) : ∃ front, d = front ++ [0x3E] := by
  obtain ⟨front, body, -, -, rfl⟩ := h
  exact ⟨front ++ (opening ++ (body ++ [0x3F])), by simp [closing_eq]⟩

end Declaration

end LicenseAudit
