import LicenseAudit.CommandLine.Arguments
import LicenseAudit.Notice.Document
import LicenseAudit.Proofs.Notice.Range
import LicenseAudit.Proofs.Text.Utf8

/-!
# The first range of a document

The search goes over the characters of a document, and what it finds is told in bytes. A range is
written in characters of one byte, so that it begins at the same places in the bytes of a document
and in its text. The first of these places is the one that is found.

* `YearRange.BeginsAt` — a range begins at an offset of a document;
* `YearRange.IsFirst` — a cut of a text around the end year of its first range.

## Results

* `digits_eq_leftpad` — the digits of an end year are the year with zeros in front of it.
* `beginsAt_iff` — a range begins in the bytes where it begins in the text.
* `isFirst_of_find?`, `find?_eq_none_iff` — what is found is the first range, and nothing is found
  only where no range begins.
* `IsFirst.unique` — a text has one first range at most.
* `Notice.rangeOf_first` — a document is searched for its first range, and for nothing else.
-/

namespace LicenseAudit

open Text

-- ---------------------------------------------------------------------------
-- Digits
-- ---------------------------------------------------------------------------

namespace Text

theorem decimalValue_replicate_append (k : Nat) (digits : List Char) :
    decimalValue (List.replicate k '0' ++ digits) = decimalValue digits := by
  induction k with
  | zero => rfl
  | succ k ih => exact ih

theorem decimalValue_lt {digits : List Char} (h : ∀ c ∈ digits, c.isDigit = true) :
    decimalValue digits < Nat.pow 10 digits.length := by
  induction digits using List.reverseRecOn with
  | nil => decide
  | append_singleton digits c ih =>
    have hRest := ih fun d hMem => h d (List.mem_append_left _ hMem)
    have hDigit := Char.isDigit_iff_toNat.mp (h c (by simp))
    have hNine : '9'.toNat = '0'.toNat + 9 := rfl
    have hTen : Nat.pow 10 (digits.length + 1) = Nat.pow 10 digits.length * 10 := rfl
    rw [decimalValue_concat, List.length_append, List.length_singleton, hTen]
    omega

end Text

namespace YearRange

variable {r r' : YearRange} {startYear : Int} {content : String} {cs digits : List Char}

theorem isYear_iff : isYear digits = true ↔
    digits.length = 4 ∧ ∀ c ∈ digits, c.isDigit = true := by
  rw [isYear, Bool.and_eq_true, beq_iff_eq, List.all_eq_true]

theorem year_le (h : isYear r.digits = true) : r.year ≤ 9999 := by
  have hValue := decimalValue_lt fun c => isDigit_of_isYear h
  rw [length_of_isYear h] at hValue
  exact Nat.le_of_lt_succ hValue

/-- The digits of an end year are the year with zeros in front of it. -/
theorem digits_eq_leftpad (h : isYear r.digits = true) :
    r.digits = List.leftpad 4 '0' (toString r.year).toList := by
  have hText : (toString r.year).toList = Nat.toDigits 10 r.year := Nat.toList_repr
  have hShort : (Nat.toDigits 10 r.year).length ≤ 4 :=
    (Nat.length_toDigits_le_iff (by decide) (by decide)).mpr (Nat.lt_succ_of_le (year_le h))
  rw [hText, List.leftpad]
  refine eq_of_decimalValue_eq ?_ (fun c => isDigit_of_isYear h) (fun c hMem => ?_) ?_
  · rw [length_of_isYear h, List.length_append, List.length_replicate]
    omega
  · rcases List.mem_append.mp hMem with hZero | hDigit
    · rw [List.eq_of_mem_replicate hZero]
      decide
    · exact Nat.isDigit_of_mem_toDigits (by decide) (by decide) hDigit
  · rw [decimalValue_replicate_append, decimalValue_toDigits, year]

/-- Digits without a sign are read as the number that they stand for. -/
theorem decimalInteger?_ofList {digits : List Char} (hSome : digits ≠ [])
    (hDigits : ∀ c ∈ digits, c.isDigit = true) :
    decimalInteger? (String.ofList digits) = some (decimalValue digits : Int) := by
  have hRead : (digits.isEmpty || !digits.all Char.isDigit) = false := by
    rw [List.all_eq_true.mpr hDigits, List.isEmpty_eq_false_iff.mpr hSome]
    rfl
  unfold decimalInteger?
  rw [String.toList_ofList]
  split
  rename_i hSplit
  split at hSplit
  · exact absurd (hDigits '-' List.mem_cons_self) (by decide)
  · exact absurd (hDigits '+' List.mem_cons_self) (by decide)
  · cases hSplit
    rw [hRead]
    rfl

/-- An end year is a number that is taken for a year on the command line, too. -/
theorem yearValue?_digits (h : isYear r.digits = true) :
    yearValue? (String.ofList r.digits) = some (r.year : Int) := by
  obtain ⟨hLength, hDigits⟩ := isYear_iff.mp h
  have hSome : r.digits ≠ [] := List.ne_nil_of_length_pos (by omega)
  rw [yearValue?, integerBetween?, decimalInteger?_ofList hSome hDigits]
  refine if_pos ?_
  have hBound : decimalValue r.digits ≤ 9999 := year_le h
  have hPower : Int.pow 2 31 = 2147483648 := by decide
  simp only [hPower, Bool.and_eq_true, decide_eq_true_eq]
  omega

/-- A digit is a character of ASCII. -/
theorem toNat_le_of_isDigit {c : Char} (h : c.isDigit = true) : c.toNat ≤ 127 :=
  (Char.isDigit_iff_toNat.mp h).2.trans (by decide)

/-- The digits of an end year take one byte each. -/
theorem length_encode_of_isYear (h : isYear digits = true) : (encode digits).length = 4 := by
  rw [length_encode_of_ascii fun c hMem => toNat_le_of_isDigit (isDigit_of_isYear h hMem),
    length_of_isYear h]

/-- What a range begins with is written in digits and hyphens. -/
theorem hyphen_or_isDigit_of_mem_opening {c : Char} (h : c ∈ opening startYear) :
    c = '-' ∨ c.isDigit = true := by
  have hNumber : ∀ n : Nat, c ∈ Nat.toDigits 10 n → c.isDigit = true :=
    fun n => Nat.isDigit_of_mem_toDigits (by decide) (by decide)
  rw [opening, List.mem_append, List.mem_singleton] at h
  rcases h with hYear | rfl
  · cases startYear with
    | ofNat n => exact Or.inr (hNumber n (yearText_natCast n ▸ hYear))
    | negSucc n =>
      rw [yearText_negSucc] at hYear
      exact (List.mem_cons.mp hYear).imp_right (hNumber (n + 1))
  · exact Or.inl rfl

-- ---------------------------------------------------------------------------
-- Places in bytes
-- ---------------------------------------------------------------------------

/-- At the offset in the bytes of a document begins a range: the first year as it is written, with
its sign, a hyphen and four digits. -/
def BeginsAt (startYear : Int) (document : Bytes) (offset : Nat) : Prop :=
  ∃ digits : List Char, digits.length = 4 ∧ (∀ c ∈ digits, c.isDigit = true) ∧
    encode ((toString startYear).toList ++ '-' :: digits) <+: document.drop offset

/-- A range begins with a character of one byte. -/
theorem exists_opening_eq_cons (startYear : Int) :
    ∃ c rest b, opening startYear = c :: rest ∧ IsSingle c b := by
  obtain ⟨c, rest, hHead⟩ : ∃ c rest, opening startYear = c :: rest :=
    List.exists_cons_of_ne_nil (List.append_ne_nil_of_right_ne_nil _ (List.cons_ne_nil _ _))
  have hAscii : c.toNat ≤ 127 := by
    rcases hyphen_or_isDigit_of_mem_opening (hHead ▸ List.mem_cons_self) with rfl | hDigit
    · decide
    · exact toNat_le_of_isDigit hDigit
  exact ⟨c, rest, _, hHead, isSingle_of_le hAscii⟩

/-- A range begins in the bytes of a text exactly where it begins in the text. -/
theorem beginsAt_iff {offset : Nat} : BeginsAt startYear (encode cs) offset ↔
    ∃ a z, cs = a ++ z ∧ (encode a).length = offset ∧ Opens (opening startYear) z := by
  have hSpelled : ∀ digits, (toString startYear).toList ++ '-' :: digits =
      opening startYear ++ digits := fun digits => by simp [opening, yearText]
  constructor
  · rintro ⟨digits, hLength, hDigits, v, hHere⟩
    obtain ⟨c, rest, b, hHead, hSingle⟩ := exists_opening_eq_cons startYear
    rw [hSpelled, hHead, List.cons_append] at hHere
    have hCut : encode cs = (encode cs).take offset ++ (encode (c :: (rest ++ digits)) ++ v) := by
      rw [hHere, List.take_append_drop]
    obtain ⟨a, z, rfl, hBefore, rfl⟩ := exists_cut_of_encode hSingle hCut
    have hInside : offset ≤ (encode (a ++ (c :: (rest ++ digits) ++ z))).length := by
      by_contra hBehind
      rw [List.drop_eq_nil_of_le (by omega), List.append_eq_nil_iff, encode_eq_nil_iff] at hHere
      exact List.cons_ne_nil _ _ hHere.1
    refine ⟨a, _, rfl, ?_, digits, z, ?_, isYear_iff.mpr ⟨hLength, hDigits⟩⟩
    · rw [← hBefore, List.length_take, Nat.min_eq_left hInside]
    · rw [hHead, List.cons_append, List.cons_append, List.cons_append]
  · rintro ⟨a, z, rfl, rfl, digits, after, rfl, hYear⟩
    obtain ⟨hLength, hDigits⟩ := isYear_iff.mp hYear
    refine ⟨digits, hLength, hDigits, encode after, ?_⟩
    rw [hSpelled, ← encode_append, encode_append a, List.drop_left]

-- ---------------------------------------------------------------------------
-- The first range
-- ---------------------------------------------------------------------------

/-- The text is cut around the end year of its first range. No other range begins before that one,
and the year behind its hyphen is told by the places of its four bytes, which stand between
characters. The digits are the year with zeros in front of it, and are read as such. Another year is
put in the place of these bytes. -/
structure IsFirst (r : YearRange) (startYear : Int) (text : String) : Prop where
  whole    : r.before ++ r.digits ++ r.after = text.toList
  first    : ∃ offset, BeginsAt startYear (encode text.toList) offset ∧
    (∀ other, BeginsAt startYear (encode text.toList) other → offset ≤ other) ∧
    r.start = offset + (toString startYear).utf8ByteSize + 1
  stop     : r.stop = r.start + 4
  span     : ((encode text.toList).take r.stop).drop r.start = encode r.digits
  valid    : String.Pos.Raw.IsValid text ⟨r.start⟩ ∧ String.Pos.Raw.IsValid text ⟨r.stop⟩
  written  : r.digits = List.leftpad 4 '0' (toString r.year).toList
  bound    : r.year ≤ 9999
  read     : yearValue? (String.ofList r.digits) = some (r.year : Int)
  replaced : ∀ year : Int, encode (r.setEnd year) = (encode text.toList).take r.start ++
    encode (toString year).toList ++ (encode text.toList).drop r.stop

/-- What is found is a cut of the text at four digits. -/
theorem text_of_find? (h : find? startYear cs = some r) :
    r.text = cs ∧ isYear r.digits = true := by
  obtain ⟨front, hText, hBefore, hYear, -⟩ := findFrom?_eq_some_iff.mp h
  refine ⟨?_, hYear⟩
  rw [hText, text, hBefore]
  simp

theorem length_encode_opening (startYear : Int) :
    (encode (opening startYear)).length = (toString startYear).utf8ByteSize + 1 := by
  rw [opening, yearText, encode_append, List.length_append, ← utf8ByteSize_ofList,
    String.ofList_toList]
  rfl

/-- No range begins before the one that is found. -/
theorem le_of_beginsAt {front z : List Char} {other : Nat}
    (hFirst : ∀ a b, front = a ++ b → b ≠ [] → ¬ Opens (opening startYear) (b ++ z))
    (h : BeginsAt startYear (encode (front ++ z)) other) : (encode front).length ≤ other := by
  obtain ⟨a, behind, hText, rfl, hOpens⟩ := beginsAt_iff.mp h
  rcases List.append_eq_append_iff.mp hText with ⟨b, rfl, -⟩ | ⟨b, rfl, rfl⟩
  · rw [encode_append, List.length_append]
    exact Nat.le_add_right _ _
  · by_cases hNil : b = []
    · rw [hNil, List.append_nil]
    · exact absurd hOpens (hFirst a b rfl hNil)

/-- What is found is the first range. -/
theorem isFirst_of_find? (h : find? startYear content.toList = some r) :
    r.IsFirst startYear content := by
  obtain ⟨hWhole, hYear⟩ := text_of_find? h
  obtain ⟨front, hText, hBefore, -, hFirst⟩ := findFrom?_eq_some_iff.mp h
  have hStart : r.start = (encode front).length + (toString startYear).utf8ByteSize + 1 := by
    rw [start, hBefore, encode_append, List.length_append, length_encode_opening, Nat.add_assoc]
  have hStop : r.stop = r.start + 4 := by rw [stop, length_encode_of_isYear hYear]
  have hBehind : r.stop = (encode (r.before ++ r.digits)).length := by
    rw [stop, start, encode_append, List.length_append]
  have hBytes : encode content.toList = encode (r.before ++ r.digits) ++ encode r.after := by
    rw [← hWhole, text, encode_append]
  refine ⟨hWhole, ⟨(encode front).length, ?_, ?_, hStart⟩, hStop, ?_, ⟨?_, ?_⟩,
    digits_eq_leftpad hYear, year_le hYear, yearValue?_digits hYear, ?_⟩
  · exact beginsAt_iff.mpr ⟨front, _, hText, rfl, r.digits, r.after, rfl, hYear⟩
  · intro other hOther
    rw [hText] at hOther
    exact le_of_beginsAt hFirst hOther
  · rw [hBytes, hBehind, List.take_left, encode_append, start, List.drop_left]
  · exact isValid_length_encode (z := r.digits ++ r.after) (by simp [← hWhole, text])
  · rw [hBehind]
    exact isValid_length_encode hWhole.symm
  · intro year
    rw [hBytes, hBehind, List.drop_left, encode_append, List.append_assoc (encode r.before), start,
      List.take_left, setEnd, encode_append, encode_append]
    rfl

/-- Nothing is found exactly where no range begins. -/
theorem find?_eq_none_iff : find? startYear cs = none ↔
    ∀ offset, ¬ BeginsAt startYear (encode cs) offset := by
  rw [find?, findFrom?_eq_none_iff]
  constructor
  · intro hNone offset hBegins
    obtain ⟨a, z, rfl, -, digits, after, rfl, hYear⟩ := beginsAt_iff.mp hBegins
    exact hNone digits hYear
      ((List.prefix_append _ after).isInfix.trans (List.suffix_append a _).isInfix)
  · rintro hNone digits hYear ⟨a, after, rfl⟩
    refine hNone (encode a).length (beginsAt_iff.mpr ⟨a, _, ?_, rfl, digits, after, rfl, hYear⟩)
    simp

/-- A text has one first range at most. -/
theorem IsFirst.unique (h : r.IsFirst startYear content) (h' : r'.IsFirst startYear content) :
    r = r' := by
  obtain ⟨offset, hBegins, hLeast, hStart⟩ := h.first
  obtain ⟨offset', hBegins', hLeast', hStart'⟩ := h'.first
  have hSame : r.start = r'.start := by
    have hLe := hLeast offset' hBegins'
    have hGe := hLeast' offset hBegins
    omega
  have hSize : (encode r.digits).length = (encode r'.digits).length := by
    have hFour := h.stop
    have hFour' := h'.stop
    rw [YearRange.stop] at hFour hFour'
    omega
  have hWhole : r.before ++ (r.digits ++ r.after) = r'.before ++ (r'.digits ++ r'.after) := by
    rw [← List.append_assoc, ← List.append_assoc, h.whole, h'.whole]
  obtain ⟨hBefore, hRest⟩ := append_inj_of_length_encode hWhole hSame
  obtain ⟨hDigits, hAfter⟩ := append_inj_of_length_encode hRest hSize
  cases r
  cases r'
  exact congr (congr (congrArg YearRange.mk hBefore) hDigits) hAfter

end YearRange

namespace Notice

open YearRange

/-- **A document is searched for its first range.** The search fails just if no range begins
anywhere in the bytes of the document, and there is only one way in which it fails. Otherwise it
finds the first range, which is the only one of its kind. -/
theorem rangeOf_first (n : Notice) (text : String) :
    (∀ e, n.rangeOf text = .error e ↔ e = .noDateRange n.path n.startYear ∧
      ∀ offset, ¬ BeginsAt n.startYear (encode text.toList) offset) ∧
    (∀ r, n.rangeOf text = .ok r ↔ r.IsFirst n.startYear text) := by
  cases hFind : find? n.startYear text.toList with
  | none =>
    have hNone := find?_eq_none_iff.mp hFind
    have hEnd : n.rangeOf text = .error (.noDateRange n.path n.startYear) := by
      rw [rangeOf, hFind]
    simp only [hEnd, Except.error.injEq, reduceCtorEq, false_iff]
    refine ⟨fun e => ⟨fun hSame => ⟨hSame.symm, hNone⟩, fun h => h.1.symm⟩, fun r hFirst => ?_⟩
    obtain ⟨offset, hBegins, -⟩ := hFirst.first
    exact hNone offset hBegins
  | some r =>
    have hFirst := isFirst_of_find? hFind
    have hEnd : n.rangeOf text = .ok r := by rw [rangeOf, hFind]
    simp only [hEnd, Except.ok.injEq, reduceCtorEq, false_iff]
    refine ⟨fun e hNone => ?_, fun r' => ⟨fun hSame => hSame ▸ hFirst, hFirst.unique⟩⟩
    obtain ⟨offset, hBegins, -⟩ := hFirst.first
    exact hNone.2 offset hBegins

/-- What looks like the beginning of a range is passed over, and no fifth digit belongs to it. -/
example : (rangeOf ⟨⟨"NOTICE"⟩, -5⟩ "é-5--5-00123").toOption =
    some ⟨"é-5--5-".toList, "0012".toList, "3".toList⟩ := by decide

end Notice

end LicenseAudit
