import LicenseAudit.Report.Basic
import LicenseAudit.Text.Numeral
import Mathlib.Tactic.SplitIfs

/-!
# Reading JSON

Who reads a report relies on the grammar of JSON. It is said here for the values that occur in
reports: which value stands in front of a text, and what is left behind it. A text spells one value
at most, and what is printed for a value spells the value.

* `Json.string?`, `Json.numeral?` — a string up to its closing quotation mark, and a number;
* `Json.Part`, `Json.Reads` — a part of the grammar that stands in front of a text;
* `Json.Spells` — a text that is one value, with white space around it;
* `Json.member?` — what stands in an object under a key.

## Results

* `Spells.unique` — a text spells one value at most.
* `string?_quote`, `numeral?_toString` — printed strings and numbers are read back.
* `spells_render` — what is printed for a value spells the value.
-/

namespace LicenseAudit.Json

open Text

-- ---------------------------------------------------------------------------
-- Grammar
-- ---------------------------------------------------------------------------

/-- What is left behind white space. -/
def skipBlanks (cs : List Char) : List Char :=
  cs.dropWhile fun c => c = ' ' || c = '\n' || c = '\r' || c = '\t'

/-- The character that a letter behind a backslash stands for. -/
def escaped? (letter : Char) : Option Char :=
  if letter = '"' || letter = '\\' || letter = '/' then some letter
  else if letter = 'b' then some '\x08'
  else if letter = 'f' then some '\x0C'
  else if letter = 'n' then some '\n'
  else if letter = 'r' then some '\r'
  else if letter = 't' then some '\t'
  else none

/-- The character that hexadecimal digits stand for. -/
def hexChar? (digits : List Char) : Option Char :=
  if digits.all fun d => (digitValue? d).isSome then scalarValue? (numeralValue 16 digits) else none

/-- The characters of a string up to its closing quotation mark, and what is left behind it. -/
def string? : List Char → Option (List Char × List Char)
  | [] => none
  | c :: rest =>
    if c = '"' then some ([], rest)
    else if c = '\\' then
      match rest with
      | 'u' :: a :: b :: d :: e :: rest =>
        (hexChar? [a, b, d, e]).bind fun c => (string? rest).map fun (cs, left) => (c :: cs, left)
      | letter :: rest =>
        (escaped? letter).bind fun c => (string? rest).map fun (cs, left) => (c :: cs, left)
      | [] => none
    else if c.toNat < 0x20 then none
    else (string? rest).map fun (cs, left) => (c :: cs, left)

/-- The number that stands in front of a text, without zeros in front, and what is left behind
it. -/
def numeral? (cs : List Char) : Option (Nat × List Char) :=
  match cs.takeWhile Char.isDigit with
  | [] => none
  | '0' :: _ :: _ => none
  | digits => some (decimalValue digits, cs.dropWhile Char.isDigit)

/-- A part of the grammar: a value, the items of an array from its second one on, a member of an
object, or its members from the second one on. -/
inductive Part where
  | value (v : Json)
  | items (vs : List Json)
  | member (key : String) (v : Json)
  | members (ms : List (String × Json))

/-- The part stands in front of the text, and this is left behind it. -/
inductive Reads : Part → List Char → List Char → Prop where
  | null {rest : List Char} : Reads (.value .null) ('n' :: 'u' :: 'l' :: 'l' :: rest) rest
  | number {n : Nat} {cs rest : List Char} (hNumeral : numeral? cs = some (n, rest)) :
      Reads (.value (.number n)) cs rest
  | string {s cs rest : List Char} (hString : string? cs = some (s, rest)) :
      Reads (.value (.string (String.ofList s))) ('"' :: cs) rest
  | emptyArray {cs rest : List Char} (hEnd : skipBlanks cs = ']' :: rest) :
      Reads (.value (.array [])) ('[' :: cs) rest
  | array {v : Json} {vs : List Json} {cs behind rest : List Char}
      (hFirst : Reads (.value v) (skipBlanks cs) behind)
      (hItems : Reads (.items vs) (skipBlanks behind) rest) :
      Reads (.value (.array (v :: vs))) ('[' :: cs) rest
  | emptyObject {cs rest : List Char} (hEnd : skipBlanks cs = '\x7d' :: rest) :
      Reads (.value (.object [])) ('\x7b' :: cs) rest
  | object {key : String} {v : Json} {ms : List (String × Json)} {cs behind rest : List Char}
      (hFirst : Reads (.member key v) (skipBlanks cs) behind)
      (hMembers : Reads (.members ms) (skipBlanks behind) rest) :
      Reads (.value (.object ((key, v) :: ms))) ('\x7b' :: cs) rest
  | lastItem {rest : List Char} : Reads (.items []) (']' :: rest) rest
  | item {v : Json} {vs : List Json} {cs behind rest : List Char}
      (hValue : Reads (.value v) (skipBlanks cs) behind)
      (hItems : Reads (.items vs) (skipBlanks behind) rest) :
      Reads (.items (v :: vs)) (',' :: cs) rest
  | member {key cs behind colon rest : List Char} {v : Json}
      (hKey : string? cs = some (key, behind)) (hColon : skipBlanks behind = ':' :: colon)
      (hValue : Reads (.value v) (skipBlanks colon) rest) :
      Reads (.member (String.ofList key) v) ('"' :: cs) rest
  | lastMember {rest : List Char} : Reads (.members []) ('\x7d' :: rest) rest
  | nextMember {key : String} {v : Json} {ms : List (String × Json)} {cs behind rest : List Char}
      (hMember : Reads (.member key v) (skipBlanks cs) behind)
      (hMembers : Reads (.members ms) (skipBlanks behind) rest) :
      Reads (.members ((key, v) :: ms)) (',' :: cs) rest

/-- The text is the value, with white space around it. -/
def Spells (text : String) (v : Json) : Prop :=
  ∃ rest, Reads (.value v) (skipBlanks text.toList) rest ∧ skipBlanks rest = []

/-- What stands in an object under a key. -/
def member? (key : String) : Json → Option Json
  | object ms => (ms.find? fun m => m.1 = key).map Prod.snd
  | _ => none

-- ---------------------------------------------------------------------------
-- One value at most
-- ---------------------------------------------------------------------------

/-- Parts of one sort. -/
def Part.SameSort : Part → Part → Prop
  | value _, value _ | items _, items _ | member _ _, member _ _ | members _, members _ => True
  | _, _ => False

theorem numeral?_cons_eq_none {c : Char} (h : c.isDigit = false) (cs : List Char) :
    numeral? (c :: cs) = none := by
  rw [numeral?, List.takeWhile_cons, h]
  rfl

/-- No value begins with the end of an array. -/
theorem not_reads_value_bracket {v : Json} {cs rest : List Char} :
    ¬ Reads (.value v) (']' :: cs) rest := by
  rintro (_ | ⟨hNumeral⟩)
  rw [numeral?_cons_eq_none (by decide)] at hNumeral
  cases hNumeral

/-- What a part is and what is left behind it can be told from the text. -/
theorem Reads.unique {p p' : Part} {cs rest rest' : List Char} (h : Reads p cs rest)
    (h' : Reads p' cs rest') (hSort : p.SameSort p') : p = p' ∧ rest = rest' := by
  induction h generalizing p' rest' with
  | null =>
    cases h' with
    | null => exact ⟨rfl, rfl⟩
    | number hNumeral => cases (numeral?_cons_eq_none (by decide) _).symm.trans hNumeral
  | number hNumeral =>
    cases h' with
    | number hNumeral' =>
      cases hNumeral.symm.trans hNumeral'
      exact ⟨rfl, rfl⟩
    | null | string | emptyArray | array | emptyObject | object =>
      cases (numeral?_cons_eq_none (by decide) _).symm.trans hNumeral
    | lastItem | item | member | lastMember | nextMember => cases hSort
  | string hString =>
    cases h' with
    | string hString' =>
      cases hString.symm.trans hString'
      exact ⟨rfl, rfl⟩
    | number hNumeral => cases (numeral?_cons_eq_none (by decide) _).symm.trans hNumeral
    | member => cases hSort
  | emptyArray hEnd =>
    cases h' with
    | emptyArray hEnd' =>
      cases hEnd.symm.trans hEnd'
      exact ⟨rfl, rfl⟩
    | array hFirst => exact absurd (hEnd ▸ hFirst) not_reads_value_bracket
    | number hNumeral => cases (numeral?_cons_eq_none (by decide) _).symm.trans hNumeral
  | array hFirst hItems ihFirst ihItems =>
    cases h' with
    | array hFirst' hItems' =>
      obtain ⟨hValue, rfl⟩ := ihFirst hFirst' trivial
      obtain ⟨hValues, rfl⟩ := ihItems hItems' trivial
      cases hValue
      cases hValues
      exact ⟨rfl, rfl⟩
    | emptyArray hEnd => exact absurd (hEnd ▸ hFirst) not_reads_value_bracket
    | number hNumeral => cases (numeral?_cons_eq_none (by decide) _).symm.trans hNumeral
  | emptyObject hEnd =>
    cases h' with
    | emptyObject hEnd' =>
      cases hEnd.symm.trans hEnd'
      exact ⟨rfl, rfl⟩
    | object hFirst => rw [hEnd] at hFirst; cases hFirst
    | number hNumeral => cases (numeral?_cons_eq_none (by decide) _).symm.trans hNumeral
  | object hFirst hMembers ihFirst ihMembers =>
    cases h' with
    | object hFirst' hMembers' =>
      obtain ⟨hMember, rfl⟩ := ihFirst hFirst' trivial
      obtain ⟨hMembers, rfl⟩ := ihMembers hMembers' trivial
      cases hMember
      cases hMembers
      exact ⟨rfl, rfl⟩
    | emptyObject hEnd => rw [hEnd] at hFirst; cases hFirst
    | number hNumeral => cases (numeral?_cons_eq_none (by decide) _).symm.trans hNumeral
  | lastItem =>
    cases h' with
    | lastItem => exact ⟨rfl, rfl⟩
    | number => cases hSort
  | item hValue hItems ihValue ihItems =>
    cases h' with
    | item hValue' hItems' =>
      obtain ⟨hSame, rfl⟩ := ihValue hValue' trivial
      obtain ⟨hSameRest, rfl⟩ := ihItems hItems' trivial
      cases hSame
      cases hSameRest
      exact ⟨rfl, rfl⟩
    | number | nextMember => cases hSort
  | member hKey hColon hValue ih =>
    cases h' with
    | member hKey' hColon' hValue' =>
      cases hKey.symm.trans hKey'
      cases hColon.symm.trans hColon'
      obtain ⟨hSame, rfl⟩ := ih hValue' trivial
      cases hSame
      exact ⟨rfl, rfl⟩
    | number | string => cases hSort
  | lastMember =>
    cases h' with
    | lastMember => exact ⟨rfl, rfl⟩
    | number => cases hSort
  | nextMember hMember hMembers ihMember ihMembers =>
    cases h' with
    | nextMember hMember' hMembers' =>
      obtain ⟨hSame, rfl⟩ := ihMember hMember' trivial
      obtain ⟨hSameRest, rfl⟩ := ihMembers hMembers' trivial
      cases hSame
      cases hSameRest
      exact ⟨rfl, rfl⟩
    | number | item => cases hSort

/-- **A text spells one value at most.** -/
theorem Spells.unique {text : String} {v v' : Json} (h : Spells text v) (h' : Spells text v') :
    v = v' := by
  obtain ⟨rest, hReads, -⟩ := h
  obtain ⟨rest', hReads', -⟩ := h'
  exact Part.value.inj (hReads.unique hReads' trivial).1

-- ---------------------------------------------------------------------------
-- Printed strings
-- ---------------------------------------------------------------------------

theorem string?_close (rest : List Char) : string? ('"' :: rest) = some ([], rest) := by
  rw [string?.eq_def]
  rfl

theorem string?_plain {c : Char} (hNoQuote : c ≠ '"') (hNoEscape : c ≠ '\\')
    (hPrints : 0x20 ≤ c.toNat) (cs : List Char) :
    string? (c :: cs) = (string? cs).map fun (read, left) => (c :: read, left) := by
  rw [string?.eq_def]
  simp only [hNoQuote, hNoEscape, Nat.not_lt.mpr hPrints, if_false]

theorem string?_hex {a b d e c : Char} (h : hexChar? [a, b, d, e] = some c)
    (cs : List Char) : string? ('\\' :: 'u' :: a :: b :: d :: e :: cs) =
      (string? cs).map fun (read, left) => (c :: read, left) := by
  rw [string?.eq_def]
  simp [h]

theorem string?_escaped {letter c : Char} (h : escaped? letter = some c) (cs : List Char) :
    string? ('\\' :: letter :: cs) = (string? cs).map fun (read, left) => (c :: read, left) := by
  have hOther : letter ≠ 'u' := by
    rintro rfl
    cases h
  rw [string?.eq_def]
  simp [h, hOther]

/-- A control character is read back from its number. -/
theorem hexChar?_hexDigit {c : Char} (h : c.toNat < 0x20) :
    hexChar? ['0', '0', hexDigit (c.toNat / 16), hexDigit c.toNat] = some c := by
  have hAll : ∀ n < 0x20, hexChar? ['0', '0', hexDigit (n / 16), hexDigit n] =
      some (Char.ofNat n) := by decide
  rw [hAll _ h, Char.ofNat_toNat]

/-- The letter for a control character is read back. -/
theorem escaped?_of_shortEscape? {c letter : Char} (h : shortEscape? c = some letter) :
    escaped? letter = some c := by
  unfold shortEscape? at h
  split_ifs at h with hBack hTab hBreak hFeed hReturn
  · rw [hBack, ← Option.some.inj h]
    rfl
  · rw [hTab, ← Option.some.inj h]
    rfl
  · rw [hBreak, ← Option.some.inj h]
    rfl
  · rw [hFeed, ← Option.some.inj h]
    rfl
  · rw [hReturn, ← Option.some.inj h]
    rfl

/-- A printed character is read back. -/
theorem string?_escapeChar (c : Char) (cs : List Char) :
    string? (escapeChar c ++ cs) = (string? cs).map fun (read, left) => (c :: read, left) := by
  rw [escapeChar]
  by_cases hSelf : (c = '"' || c = '\\' : Bool) = true
  · have hEscaped : escaped? c = some c := by
      rcases (by simpa using hSelf : c = '"' ∨ c = '\\') with rfl | rfl <;> rfl
    rw [if_pos hSelf]
    exact string?_escaped hEscaped cs
  · rw [if_neg hSelf]
    cases hShort : shortEscape? c with
    | some letter => exact string?_escaped (escaped?_of_shortEscape? hShort) cs
    | none =>
      simp only
      split_ifs with hControl
      · exact string?_hex (hexChar?_hexDigit hControl) cs
      · simp only [Bool.or_eq_true, decide_eq_true_eq, not_or] at hSelf
        exact string?_plain hSelf.1 hSelf.2 (Nat.le_of_not_lt hControl) cs

/-- A printed string is read back. -/
theorem string?_flatMap_escapeChar (cs rest : List Char) :
    string? (cs.flatMap escapeChar ++ '"' :: rest) = some (cs, rest) := by
  induction cs with
  | nil => exact string?_close rest
  | cons c cs ih =>
    rw [List.flatMap_cons, List.append_assoc, string?_escapeChar, ih]
    rfl

/-- The text of a string, as it is read. -/
theorem quote_append (s : String) (rest : List Char) :
    (quote s).toList ++ rest = '"' :: (s.toList.flatMap escapeChar ++ '"' :: rest) := by
  simp [quote]

-- ---------------------------------------------------------------------------
-- Printed numbers
-- ---------------------------------------------------------------------------

/-- A number that is not zero is printed without zeros in front. -/
theorem head?_toDigits_ne {n : Nat} (h : 0 < n) : (Nat.toDigits 10 n).head? ≠ some '0' := by
  induction n using Nat.strongRecOn with
  | ind n ih =>
    have hDigit : ∀ d < 10, 0 < d → Nat.digitChar d ≠ '0' := by decide
    rw [Nat.toDigits_eq_if (by omega)]
    split_ifs with hSmall
    · simpa using hDigit n hSmall h
    · rw [List.head?_append, Ne, Option.or_eq_some_iff]
      rintro (hHead | ⟨hNone, -⟩)
      · exact ih (n / 10) (by omega) (by omega) hHead
      · exact Nat.toDigits_ne_nil (List.head?_eq_none_iff.mp hNone)

/-- A printed number is read back, if no digit stands behind it. -/
theorem numeral?_toString (n : Nat) {rest : List Char}
    (hRest : ∀ c ∈ rest.head?, c.isDigit = false) :
    numeral? ((toString n).toList ++ rest) = some (n, rest) := by
  have hText : (toString n).toList = Nat.toDigits 10 n := Nat.toList_repr
  have hDigits : ∀ c ∈ Nat.toDigits 10 n, c.isDigit = true :=
    fun c => Nat.isDigit_of_mem_toDigits (by decide) (by decide)
  have hTake : (Nat.toDigits 10 n ++ rest).takeWhile Char.isDigit = Nat.toDigits 10 n := by
    rw [List.takeWhile_append_of_pos hDigits]
    cases rest with
    | nil => simp
    | cons c rest => simp [hRest c rfl]
  have hDrop : (Nat.toDigits 10 n ++ rest).dropWhile Char.isDigit = rest := by
    rw [List.dropWhile_append_of_pos hDigits]
    cases rest with
    | nil => rfl
    | cons c rest => simp [hRest c rfl]
  rw [hText, numeral?, hTake, hDrop]
  split
  · rename_i hNil
    exact absurd hNil Nat.toDigits_ne_nil
  · rename_i hZero
    rcases Nat.eq_zero_or_pos n with rfl | hPos
    · cases hZero
    · exact absurd (congrArg List.head? hZero) (head?_toDigits_ne hPos)
  · rw [decimalValue_toDigits]

-- ---------------------------------------------------------------------------
-- White space
-- ---------------------------------------------------------------------------

theorem toList_newLine (level : Nat) :
    (newLine level).toList = '\n' :: List.replicate (2 * level) ' ' := by
  simp [newLine]

/-- A new line is white space. -/
theorem skipBlanks_newLine (level : Nat) (cs : List Char) :
    skipBlanks ((newLine level).toList ++ cs) = skipBlanks cs := by
  refine List.dropWhile_append_of_pos fun c hMem => ?_
  rw [toList_newLine, List.mem_cons, List.mem_replicate] at hMem
  rcases hMem with rfl | ⟨-, rfl⟩ <;> rfl

theorem skipBlanks_cons_of_isDigit {c : Char} (h : c.isDigit = true) (cs : List Char) :
    skipBlanks (c :: cs) = c :: cs := by
  have hNoBlank : (c = ' ' || c = '\n' || c = '\r' || c = '\t' : Bool) = false := by
    rw [Bool.eq_false_iff]
    intro hBlank
    simp only [Bool.or_eq_true, decide_eq_true_eq] at hBlank
    rcases hBlank with ((rfl | rfl) | rfl) | rfl <;> cases h
  rw [skipBlanks, List.dropWhile_cons, hNoBlank]
  rfl

/-- What is printed for a value begins with no white space. -/
theorem skipBlanks_renderAt (level : Nat) (v : Json) (rest : List Char) :
    skipBlanks ((renderAt level v).toList ++ rest) = (renderAt level v).toList ++ rest := by
  cases v with
  | null => rw [renderAt]; rfl
  | number n =>
    have hText : (renderAt level (number n)).toList = Nat.toDigits 10 n := Nat.toList_repr
    rw [hText]
    cases hDigits : Nat.toDigits 10 n with
    | nil => exact absurd hDigits Nat.toDigits_ne_nil
    | cons c cs =>
      have hMem : c ∈ Nat.toDigits 10 n := hDigits ▸ List.mem_cons_self
      exact skipBlanks_cons_of_isDigit
        (Nat.isDigit_of_mem_toDigits (by decide) (by decide) hMem) _
  | string s =>
    rw [renderAt, quote_append]
    rfl
  | array vs => cases vs <;> simp [renderAt, skipBlanks]
  | object ms => cases ms <;> simp [renderAt, skipBlanks]

-- ---------------------------------------------------------------------------
-- Printed values
-- ---------------------------------------------------------------------------

/-- Behind an item stands no digit. -/
theorem head?_renderItems (level : Nat) (vs : List Json) {tail : List Char}
    (hTail : ∀ c ∈ tail.head?, c.isDigit = false) :
    ∀ c ∈ ((renderItems level vs).toList ++ tail).head?, c.isDigit = false := by
  cases vs with
  | nil => simpa [renderItems] using hTail
  | cons v vs => simp [renderItems]

/-- Behind a member stands no digit. -/
theorem head?_renderMembers (level : Nat) (ms : List (String × Json)) {tail : List Char}
    (hTail : ∀ c ∈ tail.head?, c.isDigit = false) :
    ∀ c ∈ ((renderMembers level ms).toList ++ tail).head?, c.isDigit = false := by
  cases ms with
  | nil => simpa [renderMembers] using hTail
  | cons m ms => simp [renderMembers]

theorem head?_newLine (level : Nat) (cs : List Char) :
    ∀ c ∈ ((newLine level).toList ++ cs).head?, c.isDigit = false := by
  simp [toList_newLine]

/-- A member on a line of its own is read back if its value is. -/
theorem reads_member (level : Nat) (key : String) {v : Json} {rest : List Char}
    (hValue : Reads (.value v) ((renderAt level v).toList ++ rest) rest) :
    Reads (.member key v) (skipBlanks ((newLine level).toList ++
      ((quote key).toList ++ ':' :: ' ' :: ((renderAt level v).toList ++ rest)))) rest := by
  have hBlank : ∀ cs, skipBlanks (' ' :: cs) = skipBlanks cs := fun cs => rfl
  rw [← skipBlanks_renderAt, ← hBlank] at hValue
  have hMember := Reads.member (string?_flatMap_escapeChar key.toList
    (':' :: ' ' :: ((renderAt level v).toList ++ rest))) rfl hValue
  rw [skipBlanks_newLine, quote_append]
  rwa [String.ofList_toList] at hMember

mutual

/-- What is printed for a value is read back, if no digit stands behind it. -/
theorem reads_renderAt (level : Nat) (v : Json) (rest : List Char)
    (hRest : ∀ c ∈ rest.head?, c.isDigit = false) :
    Reads (.value v) ((renderAt level v).toList ++ rest) rest := by
  match v with
  | null =>
    rw [renderAt]
    exact .null
  | number n =>
    rw [renderAt]
    exact .number (numeral?_toString n hRest)
  | string s =>
    have hString := Reads.string (string?_flatMap_escapeChar s.toList rest)
    rwa [String.ofList_toList, ← quote_append] at hString
  | array [] =>
    rw [renderAt]
    exact .emptyArray (by rfl)
  | array (first :: vs) =>
    have hTail : skipBlanks ((newLine level).toList ++ ']' :: rest) = ']' :: rest :=
      skipBlanks_newLine level _
    have hEnd := head?_newLine level (']' :: rest)
    have hItems := reads_renderItems (level + 1) vs hTail hEnd
    have hFirst := reads_renderAt (level + 1) first _ (head?_renderItems (level + 1) vs hEnd)
    rw [← skipBlanks_renderAt, ← skipBlanks_newLine (level + 1)] at hFirst
    simpa [renderAt, String.toList_append] using Reads.array hFirst hItems
  | object [] =>
    rw [renderAt]
    exact .emptyObject (by rfl)
  | object ((key, v) :: ms) =>
    have hTail : skipBlanks ((newLine level).toList ++ '\x7d' :: rest) = '\x7d' :: rest :=
      skipBlanks_newLine level _
    have hEnd := head?_newLine level ('\x7d' :: rest)
    have hMembers := reads_renderMembers (level + 1) ms hTail hEnd
    have hFirst := reads_member (level + 1) key
      (reads_renderAt (level + 1) v _ (head?_renderMembers (level + 1) ms hEnd))
    simpa [renderAt, String.toList_append] using Reads.object hFirst hMembers

/-- What is printed for further items is read back up to the end of the array. -/
theorem reads_renderItems (level : Nat) (vs : List Json) {tail rest : List Char}
    (hTail : skipBlanks tail = ']' :: rest) (hEnd : ∀ c ∈ tail.head?, c.isDigit = false) :
    Reads (.items vs) (skipBlanks ((renderItems level vs).toList ++ tail)) rest := by
  match vs with
  | [] =>
    rw [renderItems, String.toList_empty, List.nil_append, hTail]
    exact .lastItem
  | v :: vs =>
    have hItems := reads_renderItems level vs hTail hEnd
    have hValue := reads_renderAt level v _ (head?_renderItems level vs hEnd)
    rw [← skipBlanks_renderAt, ← skipBlanks_newLine level] at hValue
    simpa [renderItems, String.toList_append, skipBlanks] using Reads.item hValue hItems

/-- What is printed for further members is read back up to the end of the object. -/
theorem reads_renderMembers (level : Nat) (ms : List (String × Json)) {tail rest : List Char}
    (hTail : skipBlanks tail = '\x7d' :: rest) (hEnd : ∀ c ∈ tail.head?, c.isDigit = false) :
    Reads (.members ms) (skipBlanks ((renderMembers level ms).toList ++ tail)) rest := by
  match ms with
  | [] =>
    rw [renderMembers, String.toList_empty, List.nil_append, hTail]
    exact .lastMember
  | (key, v) :: ms =>
    have hMembers := reads_renderMembers level ms hTail hEnd
    have hMember := reads_member level key
      (reads_renderAt level v _ (head?_renderMembers level ms hEnd))
    simpa [renderMembers, String.toList_append, skipBlanks] using Reads.nextMember hMember hMembers

end

/-- **What is printed for a value spells the value.** -/
theorem spells_render (v : Json) : Spells v.render v := by
  refine ⟨[], ?_, rfl⟩
  have hReads := reads_renderAt 0 v [] nofun
  have hStart := skipBlanks_renderAt 0 v []
  rw [List.append_nil] at hReads hStart
  rw [render, hStart]
  exact hReads

end LicenseAudit.Json
