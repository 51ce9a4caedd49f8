import LicenseAudit.Proofs.Text.Utf8

/-!
# Bytes that are not UTF-8, as they are shown

A name on disk is a byte string. To be shown it is decoded, and a character takes the place of what
is not UTF-8. A name that is UTF-8 is shown as it is, so that a path can be taken for a text; of
other names some are shown alike.

* `Text.lossy` — the text that is shown for bytes.

## Results

* `lossy_encode` — the bytes of a text are shown as the text.
* `lossy_stray` — a byte that begins no character is shown by the replacement character.
-/

namespace LicenseAudit.Text

/-- The character in the place of what is not UTF-8. -/
def replacement : Char := '\uFFFD'

/-- How many bytes in front are replaced together where no character stands: a character that breaks
off, as far as it goes, or else one byte. -/
def brokenLength : Bytes → Nat
  | first :: second :: rest =>
    -- the second byte of a character of three bytes or four is bounded by the first one
    let least : UInt8 := if first = 0xE0 then 0xA0 else if first = 0xF0 then 0x90 else 0x80
    let most : UInt8 := if first = 0xED then 0x9F else if first = 0xF4 then 0x8F else 0xBF
    if 0xE0 ≤ first ∧ first ≤ 0xF4 ∧ least ≤ second ∧ second ≤ most then
      if 0xF0 ≤ first ∧ rest.head?.any (fun third => 0x80 ≤ third ∧ third ≤ 0xBF) then 3 else 2
    else 1
  | _ => 1

theorem brokenLength_pos (bytes : Bytes) : 0 < brokenLength bytes := by
  rcases bytes with - | ⟨first, - | ⟨second, rest⟩⟩
  · exact Nat.one_pos
  · exact Nat.one_pos
  · simp only [brokenLength]
    generalize (if first = 0xE0 then 0xA0 else if first = 0xF0 then 0x90 else 0x80 : UInt8) = least
    generalize (if first = 0xED then 0x9F else if first = 0xF4 then 0x8F else 0xBF : UInt8) = most
    split
    · split <;> omega
    · omega

/-- The text that is shown for bytes. -/
def lossy : Bytes → List Char
  | [] => []
  | b :: rest =>
    match (b :: rest).toByteArray.utf8DecodeChar? 0 with
    | some c => c :: lossy ((b :: rest).drop c.utf8Size)
    | none => replacement :: lossy ((b :: rest).drop (brokenLength (b :: rest)))
termination_by bytes => bytes.length
decreasing_by
  · have hSize := c.utf8Size_pos
    simp only [List.length_drop, List.length_cons]
    omega
  · have hSize := brokenLength_pos (b :: rest)
    simp only [List.length_drop, List.length_cons]
    omega

/-- The bytes of a text are shown as the text. -/
theorem lossy_encode (cs : List Char) : lossy (encode cs) = cs := by
  induction cs with
  | nil => rw [encode, List.flatMap_nil, lossy]
  | cons c cs ih =>
    have hFirst : (encode (c :: cs)).toByteArray.utf8DecodeChar? 0 = some c := by
      rw [encode_cons, List.toByteArray_append]
      exact List.utf8DecodeChar?_utf8Encode_singleton_append ..
    have hBehind : (encode (c :: cs)).drop c.utf8Size = encode cs := by
      have hLength : (encode [c]).length = c.utf8Size := by
        rw [encode, List.flatMap_singleton, String.length_utf8EncodeChar]
      rw [encode_cons, ← hLength, List.drop_left]
    cases hBytes : encode (c :: cs) with
    | nil => exact absurd (encode_eq_nil_iff.mp hBytes) (List.cons_ne_nil c cs)
    | cons b rest =>
      rw [hBytes] at hFirst hBehind
      simp only [lossy, hFirst, hBehind, ih]

/-- A byte that begins no character is shown by the replacement character, whatever stands behind
it. -/
theorem lossy_stray {b : UInt8} (hFirst : ByteArray.utf8DecodeChar?.parseFirstByte b = .invalid)
    (hLarge : 0xF4 < b) (rest : Bytes) : lossy (b :: rest) = replacement :: lossy rest := by
  have hNone : (b :: rest).toByteArray.utf8DecodeChar? 0 = none := by
    rw [ByteArray.utf8DecodeChar?, dif_pos (by simp)]
    split <;> rename_i hByte <;> simp [hFirst] at hByte ⊢
  have hLength : brokenLength (b :: rest) = 1 := by
    cases rest with
    | nil => rfl
    | cons second rest =>
      exact if_neg fun hLead => absurd hLead.2.1 (UInt8.not_le.mpr hLarge)
  simp only [lossy, hNone, hLength, List.drop_succ_cons, List.drop_zero]

end LicenseAudit.Text
