import LicenseAudit.Notice.YearRange
import Mathlib.Data.List.Infix

/-!
# Ranges in a text that changes

A notice document is searched for the first range that begins with its first year. What the search
finds in a text follows from what it finds in the parts of the text, and the year that is put into
the range is the year that the search finds there afterwards.

* `YearRange.Opens` — a range stands at the front of a text;
* `YearRange.lastYear?` — the end year of the first range;
* `YearRange.IsBarrier` — the letters that stand in no range.

## Results

* `findFrom?_eq_some_iff` — what is found is a range that no other one stands before.
* `findFrom?_eq_none_iff` — nothing is found exactly where the text holds no range.
* `yearText_spec` — a year of four digits is written with four digits, which are read back as it.
* `find?_setEnd` — the range with another end year is found where it was, whatever its first year.
* `lastYear?_setEnd` — the year that is put into a range is the one that is found there.
* `lastYear?_append` — a text that is cut at a barrier is searched part by part.
-/

namespace LicenseAudit

namespace YearRange

-- ---------------------------------------------------------------------------
-- Years
-- ---------------------------------------------------------------------------

theorem length_of_isYear {digits : List Char} (h : isYear digits = true) :
    digits.length = 4 := by
  rw [isYear, Bool.and_eq_true, beq_iff_eq] at h
  exact h.1

theorem isDigit_of_isYear {digits : List Char} (h : isYear digits = true) {c : Char}
    (hMem : c ∈ digits) : c.isDigit = true := by
  rw [isYear, Bool.and_eq_true, List.all_eq_true] at h
  exact h.2 c hMem

theorem isFourDigitYear_iff {year : Int} :
    isFourDigitYear year = true ↔ 1000 ≤ year ∧ year ≤ 9999 := by
  simp [isFourDigitYear]

theorem yearText_natCast (n : Nat) : yearText n = Nat.toDigits 10 n := Nat.toList_repr

theorem yearText_negSucc (n : Nat) :
    yearText (Int.negSucc n) = '-' :: Nat.toDigits 10 (n + 1) := by
  have hText : yearText (Int.negSucc n) = '-' :: (n + 1).repr.toList := String.toList_append
  rw [hText, Nat.toList_repr]

/-- A year of four digits is written with four digits, which are read back as it. -/
theorem yearText_spec {year : Int} (h : isFourDigitYear year = true) :
    isYear (yearText year) = true ∧ (Text.decimalValue (yearText year) : Int) = year := by
  obtain ⟨hLow, hHigh⟩ := isFourDigitYear_iff.mp h
  obtain ⟨n, rfl⟩ := Int.eq_ofNat_of_zero_le (by omega : 0 ≤ year)
  have hLength : (Nat.toDigits 10 n).length = 4 := by
    have hFour := Nat.length_toDigits_le_iff (n := n) (by decide : 1 < 10) (by decide : 0 < 4)
    have hThree := Nat.length_toDigits_le_iff (n := n) (by decide : 1 < 10) (by decide : 0 < 3)
    omega
  rw [yearText_natCast, Text.decimalValue_toDigits]
  refine ⟨?_, rfl⟩
  rw [isYear, hLength]
  refine List.all_eq_true.mpr fun c hMem => ?_
  exact Nat.isDigit_of_mem_toDigits (by omega) (by omega) hMem

/-- Digits are told apart by their number and the number that they stand for. -/
theorem eq_of_decimalValue_eq {ds es : List Char} (hLength : ds.length = es.length)
    (hDigits : ∀ c ∈ ds, c.isDigit = true) (hDigits' : ∀ c ∈ es, c.isDigit = true)
    (hValue : Text.decimalValue ds = Text.decimalValue es) : ds = es := by
  induction ds using List.reverseRecOn generalizing es with
  | nil => exact (List.length_eq_zero_iff.mp hLength.symm).symm
  | append_singleton ds c ih =>
    obtain rfl | ⟨es, d, rfl⟩ := List.eq_nil_or_concat es
    · simp at hLength
    · rw [List.concat_eq_append] at *
      rw [Text.decimalValue_concat, Text.decimalValue_concat] at hValue
      have hc := Char.isDigit_iff_toNat.mp (hDigits c (by simp))
      have hd := Char.isDigit_iff_toNat.mp (hDigits' d (by simp))
      have hNine : '9'.toNat = '0'.toNat + 9 := rfl
      have hRest : Text.decimalValue ds = Text.decimalValue es := by omega
      have hLast : c = d := Char.toNat_inj.mp (by omega)
      rw [ih (by simpa using hLength) (fun c hMem => hDigits c (by simp [hMem]))
        (fun c hMem => hDigits' c (by simp [hMem])) hRest, hLast]

/-- A year is written in one way only. -/
theorem eq_yearText_iff {digits : List Char} {year : Int} (hDigits : isYear digits = true)
    (hYear : isFourDigitYear year = true) :
    digits = yearText year ↔ (Text.decimalValue digits : Int) = year := by
  obtain ⟨hText, hValue⟩ := yearText_spec hYear
  constructor
  · rintro rfl
    exact hValue
  · intro hSame
    refine eq_of_decimalValue_eq ?_ (fun c => isDigit_of_isYear hDigits)
      (fun c => isDigit_of_isYear hText) (by omega)
    rw [length_of_isYear hDigits, length_of_isYear hText]

-- ---------------------------------------------------------------------------
-- The first range
-- ---------------------------------------------------------------------------

variable {op cs : List Char} {r : YearRange}

/-- A range with the given opening stands at the front of the text. -/
def Opens (op cs : List Char) : Prop :=
  ∃ digits after, cs = op ++ digits ++ after ∧ isYear digits = true

theorem atFront?_eq_some_iff : atFront? op cs = some r ↔
    cs = op ++ r.digits ++ r.after ∧ isYear r.digits = true ∧ r.before = op := by
  unfold atFront?
  constructor
  · intro h
    obtain ⟨hFront, hFound⟩ := Option.ite_none_right_eq_some.mp h
    obtain rfl := Option.some.inj hFound
    rw [Bool.and_eq_true, List.isPrefixOf_iff_prefix] at hFront
    obtain ⟨⟨rest, rfl⟩, hYear⟩ := hFront
    simp only [List.drop_left] at hYear ⊢
    simp [hYear]
  · rintro ⟨hText, hYear, hBefore⟩
    obtain ⟨before, digits, after⟩ := r
    obtain rfl : before = op := hBefore
    have hLength : digits.length = 4 := length_of_isYear hYear
    have hRest : cs.drop before.length = digits ++ after := by
      rw [hText, List.append_assoc, List.drop_left]
    have hTake : (digits ++ after).take 4 = digits := List.take_left' hLength
    have hDrop : (digits ++ after).drop 4 = after := List.drop_left' hLength
    have hPrefix : before.isPrefixOf cs = true := by
      rw [List.isPrefixOf_iff_prefix, hText, List.append_assoc]
      exact List.prefix_append _ _
    simp only [hRest, hTake, hDrop, hPrefix, hYear, Bool.and_self, if_true]

theorem atFront?_eq_none_iff : atFront? op cs = none ↔ ¬ Opens op cs := by
  rw [Option.eq_none_iff_forall_ne_some]
  constructor
  · rintro h ⟨digits, after, hText, hYear⟩
    exact h ⟨op, digits, after⟩ (atFront?_eq_some_iff.mpr ⟨hText, hYear, rfl⟩)
  · intro h r hFound
    obtain ⟨hText, hYear, -⟩ := atFront?_eq_some_iff.mp hFound
    exact h ⟨r.digits, r.after, hText, hYear⟩

/-- What is found is a range of the text that no other one stands before. -/
theorem findFrom?_eq_some_iff : findFrom? op cs = some r ↔
    ∃ front, cs = front ++ (op ++ r.digits ++ r.after) ∧ r.before = front ++ op ∧
      isYear r.digits = true ∧
      ∀ a b, front = a ++ b → b ≠ [] → ¬ Opens op (b ++ (op ++ r.digits ++ r.after)) := by
  induction cs generalizing r with
  | nil =>
    rw [findFrom?, atFront?_eq_some_iff]
    constructor
    · rintro ⟨hText, hYear, hBefore⟩
      refine ⟨[], hText, hBefore, hYear, fun a b hNil hSome => ?_⟩
      exact absurd (List.append_eq_nil_iff.mp hNil.symm).2 hSome
    · rintro ⟨front, hText, hBefore, hYear, -⟩
      obtain ⟨rfl, hNil⟩ := List.append_eq_nil_iff.mp hText.symm
      exact ⟨hNil.symm, hYear, hBefore⟩
  | cons c rest ih =>
    rw [findFrom?]
    cases hFront : atFront? op (c :: rest) with
    | some r' =>
      obtain ⟨hText', hYear', hBefore'⟩ := atFront?_eq_some_iff.mp hFront
      constructor
      · intro hSame
        obtain rfl := Option.some.inj hSame
        refine ⟨[], hText', hBefore', hYear', fun a b hNil hSome => ?_⟩
        exact absurd (List.append_eq_nil_iff.mp hNil.symm).2 hSome
      · rintro ⟨front, hText, hBefore, hYear, hFirst⟩
        cases front with
        | nil =>
          exact hFront.symm.trans (atFront?_eq_some_iff.mpr ⟨hText, hYear, hBefore⟩)
        | cons d front =>
          refine absurd ?_ (hFirst [] (d :: front) rfl (List.cons_ne_nil _ _))
          rw [← hText]
          exact ⟨r'.digits, r'.after, hText', hYear'⟩
    | none =>
      have hNot : ¬ Opens op (c :: rest) := atFront?_eq_none_iff.mp hFront
      rw [Option.map_eq_some_iff]
      constructor
      · rintro ⟨r', hRest, rfl⟩
        obtain ⟨front, hText, hBefore, hYear, hFirst⟩ := ih.mp hRest
        refine ⟨c :: front, congrArg (c :: ·) hText, congrArg (c :: ·) hBefore, hYear, ?_⟩
        intro a b hSplit hSome
        cases a with
        | nil =>
          obtain rfl : c :: front = b := hSplit
          rw [List.cons_append, ← hText]
          exact hNot
        | cons d a => exact hFirst a b (List.cons.inj hSplit).2 hSome
      · rintro ⟨front, hText, hBefore, hYear, hFirst⟩
        cases front with
        | nil => exact absurd ⟨r.digits, r.after, hText, hYear⟩ hNot
        | cons d front =>
          obtain ⟨rfl, hRest⟩ := List.cons.inj hText
          refine ⟨⟨front ++ op, r.digits, r.after⟩, ih.mpr ⟨front, hRest, rfl, hYear, ?_⟩, ?_⟩
          · exact fun a b hSplit hSome => hFirst (c :: a) b (congrArg (c :: ·) hSplit) hSome
          · obtain ⟨before, digits, after⟩ := r
            obtain rfl : before = c :: front ++ op := hBefore
            rfl

theorem opens_iff : Opens op cs ↔ ∃ digits, isYear digits = true ∧ op ++ digits <+: cs := by
  constructor
  · rintro ⟨digits, after, hText, hYear⟩
    exact ⟨digits, hYear, after, hText.symm⟩
  · rintro ⟨digits, hYear, after, hText⟩
    exact ⟨digits, after, hText.symm, hYear⟩

/-- Nothing is found exactly where no range stands anywhere in the text. -/
theorem findFrom?_eq_none_iff : findFrom? op cs = none ↔
    ∀ digits, isYear digits = true → ¬ op ++ digits <:+: cs := by
  induction cs with
  | nil =>
    rw [findFrom?, atFront?_eq_none_iff, opens_iff]
    simp only [List.prefix_nil, List.infix_nil, not_exists, not_and]
  | cons c rest ih =>
    have hStep : findFrom? op (c :: rest) = none ↔
        atFront? op (c :: rest) = none ∧ findFrom? op rest = none := by
      rw [findFrom?]
      cases atFront? op (c :: rest) <;> simp
    rw [hStep, ih, atFront?_eq_none_iff, opens_iff]
    simp only [List.infix_cons_iff, not_or, not_exists, not_and]
    exact ⟨fun h digits hYear => ⟨h.1 digits hYear, h.2 digits hYear⟩,
      fun h => ⟨fun digits hYear => (h digits hYear).1, fun digits hYear => (h digits hYear).2⟩⟩

-- ---------------------------------------------------------------------------
-- Another end year
-- ---------------------------------------------------------------------------

/-- A range before another one ends where the other one has not gone beyond its hyphen, since no
hyphen is a digit. -/
theorem length_le_of_opens {w b xs digits after : List Char} (hSome : b ≠ [])
    (hText : b ++ (w ++ ['-']) ++ xs = w ++ ['-'] ++ digits ++ after)
    (hYear : isYear digits = true) :
    (w ++ ['-'] ++ digits).length ≤ (b ++ (w ++ ['-'])).length := by
  have hFour := length_of_isYear hYear
  have hPositive : 0 < b.length := List.length_pos_iff.mpr hSome
  simp only [List.length_append, List.length_singleton]
  by_contra hLonger
  -- the hyphen of the other one would be a digit of the first one
  have hAt := congrArg (fun l => l[b.length + w.length]?) hText
  have hLeft : (b ++ (w ++ ['-']) ++ xs)[b.length + w.length]? = some '-' := by simp
  have hRight : (w ++ ['-'] ++ digits ++ after)[b.length + w.length]? =
      digits[b.length - 1]? := by
    rw [List.getElem?_append_left (by simp; omega), List.getElem?_append_right (by simp; omega)]
    congr 1
    simp only [List.length_append, List.length_singleton]
    omega
  simp only [hLeft, hRight] at hAt
  have hDigit := isDigit_of_isYear hYear (List.mem_of_getElem? hAt.symm)
  exact absurd hDigit (by decide)

/-- Whether a range stands before another one does not depend on the end year of that one, whatever
the first year is. -/
theorem opens_congr {w b xs ys : List Char} (hSome : b ≠ [])
    (h : Opens (w ++ ['-']) (b ++ (w ++ ['-'] ++ xs))) :
    Opens (w ++ ['-']) (b ++ (w ++ ['-'] ++ ys)) := by
  obtain ⟨digits, after, hText, hYear⟩ := h
  rw [← List.append_assoc] at hText ⊢
  have hWhole : w ++ ['-'] ++ digits <+: b ++ (w ++ ['-']) ++ xs := ⟨after, hText.symm⟩
  -- what is found stands before the end year of the other range
  obtain ⟨rest, hRest⟩ := List.prefix_of_prefix_length_le hWhole (List.prefix_append _ _)
    (length_le_of_opens hSome hText hYear)
  exact ⟨digits, rest ++ ys, by rw [← hRest, List.append_assoc _ rest], hYear⟩

/-- The range with another end year is found where the old one was. -/
theorem find?_setEnd {startYear year : Int} (hYear : isFourDigitYear year = true)
    (h : find? startYear cs = some r) :
    find? startYear (r.setEnd year) = some ⟨r.before, yearText year, r.after⟩ := by
  obtain ⟨front, -, hBefore, -, hFirst⟩ := findFrom?_eq_some_iff.mp h
  refine findFrom?_eq_some_iff.mpr ⟨front, ?_, hBefore, (yearText_spec hYear).1, ?_⟩
  · rw [setEnd, hBefore]
    simp
  · intro a b hSplit hSome hOpens
    refine hFirst a b hSplit hSome ?_
    rw [List.append_assoc] at hOpens ⊢
    exact opens_congr hSome hOpens

-- ---------------------------------------------------------------------------
-- Texts in parts
-- ---------------------------------------------------------------------------

/-- The end year of the first range that begins with the given year. -/
def lastYear? (startYear : Int) (cs : List Char) : Option Nat := (find? startYear cs).map year

/-- What holds no barrier does not reach across one. -/
theorem prefix_of_prefix_barrier {w a z : List Char} {c : Char} (hFree : c ∉ w)
    (h : w <+: a ++ c :: z) : w <+: a := by
  by_contra hNot
  have hLonger : a ++ [c] <+: w := by
    have hCut : a ++ [c] <+: a ++ c :: z := ⟨z, by simp⟩
    refine List.prefix_of_prefix_length_le hCut h ?_
    by_contra hShort
    refine hNot (List.prefix_of_prefix_length_le h (List.prefix_append _ _) ?_)
    simp only [List.length_append, List.length_singleton] at hShort
    omega
  exact hFree (hLonger.subset (List.mem_append_right _ (List.mem_singleton_self c)))

/-- What stands at the front of a text stands before any barrier in it. -/
theorem year_atFront?_append {a z : List Char} {c : Char} (hFree : c ∉ op)
    (hOther : c.isDigit = false) :
    (atFront? op (a ++ c :: z)).map year = (atFront? op a).map year := by
  cases hHere : atFront? op a with
  | some r =>
    obtain ⟨hText, hYear, -⟩ := atFront?_eq_some_iff.mp hHere
    have hMore : atFront? op (a ++ c :: z) = some ⟨op, r.digits, r.after ++ c :: z⟩ := by
      refine atFront?_eq_some_iff.mpr ⟨?_, hYear, rfl⟩
      rw [hText, List.append_assoc (op ++ r.digits)]
    rw [hMore]
    rfl
  | none =>
    have hNone : atFront? op (a ++ c :: z) = none := by
      rw [atFront?_eq_none_iff] at hHere ⊢
      rintro ⟨digits, after, hText, hYear⟩
      refine hHere ?_
      have hNoBarrier : c ∉ op ++ digits := by
        rw [List.mem_append]
        rintro (hOp | hDigit)
        · exact hFree hOp
        · rw [isDigit_of_isYear hYear hDigit] at hOther
          cases hOther
      obtain ⟨rest, hRest⟩ := prefix_of_prefix_barrier hNoBarrier ⟨after, hText.symm⟩
      exact ⟨digits, rest, hRest.symm, hYear⟩
    rw [hNone]

theorem year_findFrom?_cons {c : Char} {rest : List Char} (hNone : atFront? op (c :: rest) = none) :
    (findFrom? op (c :: rest)).map year = (findFrom? op rest).map year := by
  rw [findFrom?, hNone, Option.map_map]
  rfl

theorem year_findFrom?_append {a z : List Char} {c : Char} (hFree : c ∉ op)
    (hOther : c.isDigit = false) :
    (findFrom? op (a ++ c :: z)).map year =
      ((findFrom? op a).map year).or ((findFrom? op z).map year) := by
  have hBarrier : ∀ a : List Char, (atFront? op (a ++ c :: z)).map year =
      (atFront? op a).map year := fun a => year_atFront?_append hFree hOther
  induction a with
  | nil =>
    have hNil : atFront? op [] = none := by
      refine atFront?_eq_none_iff.mpr ?_
      rintro ⟨digits, after, hText, hYear⟩
      obtain ⟨hFront, -⟩ := List.append_eq_nil_iff.mp hText.symm
      rw [(List.append_eq_nil_iff.mp hFront).2] at hYear
      cases hYear
    have hFront := hBarrier []
    rw [hNil, Option.map_none, Option.map_eq_none_iff] at hFront
    rw [List.nil_append, year_findFrom?_cons hFront, findFrom?, hNil]
    rfl
  | cons d a ih =>
    have hFront := hBarrier (d :: a)
    cases hHere : atFront? op (d :: a) with
    | none =>
      rw [hHere, Option.map_none, Option.map_eq_none_iff] at hFront
      rw [List.cons_append] at hFront ⊢
      rw [year_findFrom?_cons hFront, ih, year_findFrom?_cons hHere]
    | some r =>
      rw [hHere, Option.map_some, Option.map_eq_some_iff] at hFront
      obtain ⟨r', hThere, hSame⟩ := hFront
      rw [List.cons_append] at hThere ⊢
      rw [findFrom?, findFrom?, hHere, hThere]
      exact congrArg some hSame

/-- A letter that stands in no range of any years. -/
def IsBarrier (c : Char) : Prop := c ≠ '-' ∧ c.isDigit = false

instance (c : Char) : Decidable (IsBarrier c) := inferInstanceAs (Decidable (_ ∧ _))

/-- A text that is cut at a letter of no range is searched part by part. -/
theorem lastYear?_append {startYear : Int} (hStart : isFourDigitYear startYear = true)
    {c : Char} (hBarrier : IsBarrier c) (a z : List Char) :
    lastYear? startYear (a ++ c :: z) = (lastYear? startYear a).or (lastYear? startYear z) := by
  refine year_findFrom?_append ?_ hBarrier.2
  rw [opening, List.mem_append, List.mem_singleton]
  rintro (hDigit | hHyphen)
  · have hDigit' := isDigit_of_isYear (yearText_spec hStart).1 hDigit
    rw [hBarrier.2] at hDigit'
    cases hDigit'
  · exact hBarrier.1 hHyphen

theorem lastYear?_nil {startYear : Int} : lastYear? startYear [] = none := by
  have hNone : ¬ Opens (opening startYear) [] := by
    rintro ⟨digits, after, hText, -⟩
    obtain ⟨hFront, -⟩ := List.append_eq_nil_iff.mp hText.symm
    have hHyphen := (List.append_eq_nil_iff.mp (List.append_eq_nil_iff.mp hFront).1).2
    cases hHyphen
  rw [lastYear?, find?, findFrom?, atFront?_eq_none_iff.mpr hNone]
  rfl

/-- A letter of no range at the front is passed over. -/
theorem lastYear?_cons {startYear : Int} (hStart : isFourDigitYear startYear = true)
    {c : Char} (hBarrier : IsBarrier c) (z : List Char) :
    lastYear? startYear (c :: z) = lastYear? startYear z := by
  have hCut := lastYear?_append hStart hBarrier [] z
  rwa [List.nil_append, lastYear?_nil, Option.none_or] at hCut

/-- The year that is put into a range is the one that is found there. -/
theorem lastYear?_setEnd {startYear year : Int} (hYear : isFourDigitYear year = true)
    (h : find? startYear cs = some r) :
    (lastYear? startYear (r.setEnd year)).map Int.ofNat = some year := by
  rw [lastYear?, find?_setEnd hYear h]
  exact congrArg some (yearText_spec hYear).2

end YearRange

end LicenseAudit
