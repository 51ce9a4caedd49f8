import LicenseAudit.Text.Blank
import LicenseAudit.Text.Lines
import LicenseAudit.Text.Search
import Mathlib.Data.List.Basic

/-!
# What stands within one line

Reading a text as lines forgets how its lines were ended and what stood behind the last one. What
survives is what stands within a single line.

* `terminated` — the lines of a text, each with a line feed behind it, the last one without;
* `StandsInLine` — a marker that stands in one of them;
* `Plain` — a marker without line feeds that does not end in white space.

## Results

* `exists_line_of_infix` — what holds no line feed and does not end in a carriage return stands in
  one of the lines.
* `standsInLine_of_plain` — a plain marker that stands in a text stands in one of its lines.
* `infix_or_infix_of_barrier` — a marker does not reach across a run of a letter that it neither
  begins nor ends with, if the run is as long as the marker.
-/

namespace LicenseAudit.Text

-- ---------------------------------------------------------------------------
-- Contiguous parts
-- ---------------------------------------------------------------------------

/-- What ends with a letter stands clear of a tail without that letter. -/
theorem infix_of_append_of_last {m front tail : List Char} {c : Char}
    (hLast : m.getLast? = some c) (hTail : c ∉ tail) (h : m <:+: front ++ tail) :
    m <:+: front := by
  rcases List.infix_append_iff_ne_nil.mp h with hFront | hRest | ⟨u, v, -, hv, rfl, -, hPrefix⟩
  · exact hFront
  · exact absurd (hRest.subset (List.mem_of_getLast? hLast)) hTail
  · rw [List.getLast?_append_of_ne_nil _ hv] at hLast
    exact absurd (hPrefix.subset (List.mem_of_getLast? hLast)) hTail

/-- What ends in no white space stands clear of white space at the end. -/
theorem infix_of_append_blank {m front tail : List Char} {c : Char} (hLast : m.getLast? = some c)
    (hVisible : isBlank c = false) (hTail : ∀ d ∈ tail, isBlank d = true)
    (h : m <:+: front ++ tail) : m <:+: front := by
  refine infix_of_append_of_last hLast (fun hMem => ?_) h
  rw [hTail c hMem] at hVisible
  cases hVisible

/-- What consists of one letter begins and ends with it. -/
theorem ends_of_run {u : List Char} {d : Char} {k : Nat} (hSome : u ≠ [])
    (hRun : u ⊆ List.replicate k d) : u.head? = some d ∧ u.getLast? = some d := by
  constructor
  · rw [List.head?_eq_some_head hSome]
    exact congrArg some (List.eq_of_mem_replicate (hRun (List.head_mem hSome)))
  · rw [List.getLast?_eq_some_getLast hSome]
    exact congrArg some (List.eq_of_mem_replicate (hRun (List.getLast_mem hSome)))

/-- A marker does not reach across a long enough run of a letter that it neither begins nor ends
with. -/
theorem infix_or_infix_of_barrier {m before after : List Char} {d : Char}
    (hHead : m.head? ≠ some d) (hLast : m.getLast? ≠ some d) (hSome : m ≠ [])
    (h : m <:+: before ++ (List.replicate m.length d ++ after)) :
    m <:+: before ∨ m <:+: after := by
  rcases List.infix_append_iff_ne_nil.mp h with hBefore | hRest | ⟨u, v, hu, hv, hm, -, hPrefix⟩
  · exact Or.inl hBefore
  · rcases List.infix_append_iff_ne_nil.mp hRest with hRun | hAfter | ⟨u, v, hu, -, hm, hRun, -⟩
    · -- the marker cannot be a part of the run
      exact absurd (ends_of_run hSome hRun.subset).1 hHead
    · exact Or.inr hAfter
    · rw [hm, List.head?_append_of_ne_nil _ hu] at hHead
      exact absurd (ends_of_run hu hRun.subset).1 hHead
  · -- its part behind `before` is shorter than the run
    have hShort : v <+: List.replicate m.length d := by
      refine List.prefix_of_prefix_length_le hPrefix (List.prefix_append _ _) ?_
      rw [List.length_replicate, hm, List.length_append]
      omega
    rw [hm, List.getLast?_append_of_ne_nil _ hv] at hLast
    exact absurd (ends_of_run hv hShort.subset).2 hLast

/-- What holds no separator stands within one of the pieces between the separators. -/
theorem infix_of_infix_intercalate {m : List Char} {sep : Char} {ps : List (List Char)}
    (hSome : m ≠ []) (hFree : sep ∉ m) (h : m <:+: List.intercalate [sep] ps) :
    ∃ p ∈ ps, m <:+: p := by
  induction ps with
  | nil => exact absurd (List.eq_nil_of_infix_nil h) hSome
  | cons p more ih =>
    cases more with
    | nil =>
      rw [List.intercalate_singleton] at h
      exact ⟨p, List.mem_singleton_self p, h⟩
    | cons q others =>
      rw [List.intercalate_cons_cons, List.append_assoc] at h
      -- a part of the marker cannot begin with the separator
      have hNot : ∀ {v rest : List Char}, v ≠ [] → v ⊆ m → ¬ v <+: [sep] ++ rest := by
        intro v rest hv hSub hPrefix
        cases v with
        | nil => exact hv rfl
        | cons c v =>
          have hc := (List.cons_prefix_cons.mp hPrefix).1
          exact hFree (hc ▸ hSub (List.mem_cons_self ..))
      rcases List.infix_append_iff_ne_nil.mp h with hFirst | hRest | ⟨u, v, -, hv, hm, -, hPrefix⟩
      · exact ⟨p, List.mem_cons_self .., hFirst⟩
      · rcases List.infix_cons_iff.mp hRest with hPrefix | hLater
        · exact absurd hPrefix (hNot hSome (List.Subset.refl m))
        · obtain ⟨l, hMem, hl⟩ := ih hLater
          exact ⟨l, List.mem_cons_of_mem _ hMem, hl⟩
      · exact absurd hPrefix (hNot hv (hm ▸ List.subset_append_right u v))

-- ---------------------------------------------------------------------------
-- Lines with their ends
-- ---------------------------------------------------------------------------

/-- Lines with a line feed behind each, the last one without. -/
def terminated : List (List Char) → List (List Char)
  | [] => []
  | [last] => [last]
  | l :: more => (l ++ ['\n']) :: terminated more

/-- Joining lines puts their terminated forms one behind the other. -/
theorem flatten_terminated (ls : List (List Char)) : (terminated ls).flatten = joinLines ls := by
  induction ls with
  | nil => rfl
  | cons l more ih =>
    cases more with
    | nil => simp [terminated, joinLines]
    | cons next others =>
      rw [terminated, List.flatten_cons, ih]
      · simp [joinLines, List.intercalate_cons_cons]
      · exact List.cons_ne_nil _ _

/-- Every line begins its terminated form. -/
theorem exists_terminated {ls : List (List Char)} {l : List Char} (hMem : l ∈ ls) :
    ∃ t ∈ terminated ls, l <+: t := by
  induction ls with
  | nil => cases hMem
  | cons first more ih =>
    cases more with
    | nil =>
      rw [List.mem_singleton.mp hMem]
      exact ⟨first, List.mem_singleton_self first, List.prefix_rfl⟩
    | cons next others =>
      rcases List.mem_cons.mp hMem with rfl | hLater
      · exact ⟨l ++ ['\n'], List.mem_cons_self .., List.prefix_append l _⟩
      · obtain ⟨t, ht, hPrefix⟩ := ih hLater
        exact ⟨t, List.mem_cons_of_mem _ ht, hPrefix⟩

/-- The marker stands within one line of the text or reaches into the line feed behind it. -/
def StandsInLine (marker text : List Char) : Prop :=
  ∃ l ∈ terminated (lines text), marker <:+: l

/-- The marker has no line feed and does not end in white space. -/
structure Plain (marker : List Char) : Prop where
  oneLine : '\n' ∉ marker
  visible : ∃ c, marker.getLast? = some c ∧ isBlank c = false

theorem Plain.ne_nil {marker : List Char} (h : Plain marker) : marker ≠ [] := by
  rintro rfl
  obtain ⟨c, hLast, -⟩ := h.visible
  cases hLast

/-- At most a carriage return is lost at the end of a line. -/
theorem exists_dropReturn (l : List Char) :
    ∃ tail, l = dropReturn l ++ tail ∧ ∀ c ∈ tail, c = '\r' := by
  fun_induction dropReturn l with
  | case1 => exact ⟨[], rfl, by simp⟩
  | case2 => exact ⟨['\r'], rfl, fun c hMem => List.mem_singleton.mp hMem⟩
  | case3 c rest hLast ih =>
    obtain ⟨tail, hSplit, hReturn⟩ := ih
    exact ⟨tail, congrArg (c :: ·) hSplit, hReturn⟩

/-- Every line begins a piece between line feeds. -/
theorem exists_piece_of_line {ps : List (List Char)} {l : List Char}
    (hMem : l ∈ linesOfPieces ps) : ∃ p ∈ ps, l <+: p := by
  fun_induction linesOfPieces ps with
  | case1 => cases hMem
  | case2 => cases hMem
  | case3 last hFilled => exact ⟨l, hMem, List.prefix_rfl⟩
  | case4 piece more hMore ih =>
    rcases List.mem_cons.mp hMem with rfl | hLater
    · obtain ⟨tail, hSplit, -⟩ := exists_dropReturn piece
      exact ⟨piece, List.mem_cons_self, tail, hSplit.symm⟩
    · obtain ⟨p, hp, hPrefix⟩ := ih hLater
      exact ⟨p, List.mem_cons_of_mem _ hp, hPrefix⟩

/-- What stands in a piece between line feeds and does not end in a carriage return stands in the
line that the piece is read as. -/
theorem exists_line_of_piece {m : List Char} {ps : List (List Char)} (hSome : m ≠ [])
    (hReturn : m.getLast? ≠ some '\r') (h : ∃ p ∈ ps, m <:+: p) :
    ∃ l ∈ linesOfPieces ps, m <:+: l := by
  have hLast := List.getLast?_eq_some_getLast hSome
  obtain ⟨p, hMem, hIn⟩ := h
  fun_induction linesOfPieces ps with
  | case1 => cases hMem
  | case2 last hEmpty =>
    rw [List.mem_singleton.mp hMem, List.isEmpty_iff.mp hEmpty] at hIn
    exact absurd (List.eq_nil_of_infix_nil hIn) hSome
  | case3 last hFilled => exact ⟨p, hMem, hIn⟩
  | case4 piece more hMore ih =>
    rcases List.mem_cons.mp hMem with rfl | hLater
    · obtain ⟨tail, hSplit, hTail⟩ := exists_dropReturn p
      rw [hSplit] at hIn
      refine ⟨_, List.mem_cons_self .., infix_of_append_of_last hLast (fun hLost => ?_) hIn⟩
      exact hReturn (hLast.trans (congrArg some (hTail _ hLost)))
    · obtain ⟨l, hl, hm⟩ := ih hLater
      exact ⟨l, List.mem_cons_of_mem _ hl, hm⟩

/-- **What holds no line feed and does not end in a carriage return stands in one of the lines** of
every text that it stands in. -/
theorem exists_line_of_infix {m text : List Char} (hSome : m ≠ []) (hFeed : '\n' ∉ m)
    (hReturn : m.getLast? ≠ some '\r') (h : m <:+: text) : ∃ l ∈ lines text, m <:+: l := by
  rw [← intercalate_pieces '\n' text] at h
  exact exists_line_of_piece hSome hReturn (infix_of_infix_intercalate hSome hFeed h)

/-- **A plain marker that stands in a text stands in one of its lines.** -/
theorem standsInLine_of_plain {m text : List Char} (hPlain : Plain m) (h : m <:+: text) :
    StandsInLine m text := by
  obtain ⟨c, hLast, hVisible⟩ := hPlain.visible
  have hReturn : m.getLast? ≠ some '\r' := by
    intro hEnd
    obtain rfl := Option.some.inj (hLast.symm.trans hEnd)
    exact absurd hVisible (by decide)
  obtain ⟨l, hLine, hl⟩ := exists_line_of_infix hPlain.ne_nil hPlain.oneLine hReturn h
  obtain ⟨t, ht, hPrefix⟩ := exists_terminated hLine
  exact ⟨t, ht, hl.trans hPrefix.isInfix⟩

/-- Trimming the end of a text loses no plain marker. -/
theorem infix_trimEnd {m text : List Char} (hPlain : Plain m) (h : m <:+: text) :
    m <:+: trimEnd text := by
  obtain ⟨c, hLast, hVisible⟩ := hPlain.visible
  obtain ⟨tail, hSplit, hBlank⟩ := trimEnd_append_blank text
  rw [hSplit] at h
  exact infix_of_append_blank hLast hVisible hBlank h

end LicenseAudit.Text
