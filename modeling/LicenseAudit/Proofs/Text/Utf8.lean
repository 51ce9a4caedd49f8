import LicenseAudit.Header.Insert

/-!
# Cutting the bytes of a text

Every byte of a character that takes more than one byte is larger than any byte that stands for a
character by itself. A byte string that is the UTF-8 form of a text and holds such a small byte can
therefore be cut there like the text.

## Results

* `encode_of_decode?` — a byte string is the UTF-8 form of what it decodes to.
* `encode_char_append_inj` — bytes that begin with a character begin with one only.
* `exists_cut` — where a byte string holds the byte of a character, its text holds the character.
* `exists_cut_of_encode` — where it holds the bytes of a text that begins with such a character, its
  text holds that text.
-/

namespace LicenseAudit.Text

theorem encode_cons (c : Char) (cs : List Char) : encode (c :: cs) = encode [c] ++ encode cs :=
  encode_append [c] cs

/-- What stands in a text stands in its bytes. -/
theorem infix_encode {a b : List Char} (h : a <:+: b) : encode a <:+: encode b := by
  obtain ⟨front, tail, rfl⟩ := h
  exact ⟨encode front, encode tail, by rw [← encode_append, ← encode_append]⟩

theorem encode_injective {a b : List Char} (h : encode a = encode b) : a = b := by
  have hSome := congrArg decode? h
  rw [decode?_encode, decode?_encode] at hSome
  exact Option.some.inj hSome

theorem encode_eq_nil_iff {cs : List Char} : encode cs = [] ↔ cs = [] :=
  ⟨fun h => encode_injective (b := []) h, fun h => h ▸ rfl⟩

/-- A byte string is the UTF-8 form of what it decodes to. -/
theorem encode_of_decode? {bytes : Bytes} {cs : List Char} (h : decode? bytes = some cs) :
    encode cs = bytes := by
  rw [decode?, Option.map_eq_some_iff] at h
  obtain ⟨chars, hChars, rfl⟩ := h
  have hSome : bytes.toByteArray.utf8Decode?.isSome = true := by rw [hChars]; rfl
  have hBack := ByteArray.utf8Encode_get_utf8Decode? (h := hSome)
  have hGet : bytes.toByteArray.utf8Decode?.get hSome = chars := by simp [hChars]
  rw [hGet] at hBack
  have hLists : (encode chars.toList).toByteArray = bytes.toByteArray := hBack
  simpa using congrArg (fun b : ByteArray => b.data.toList) hLists

theorem decode?_eq_some_iff {bytes : Bytes} {cs : List Char} :
    decode? bytes = some cs ↔ bytes = encode cs :=
  ⟨fun h => (encode_of_decode? h).symm, fun h => h ▸ decode?_encode cs⟩

/-- Bytes that begin with a character begin with one only. -/
theorem encode_char_append_inj {c d : Char} {u v : Bytes}
    (h : encode [c] ++ u = encode [d] ++ v) : c = d ∧ u = v := by
  have hDecode : ∀ (c : Char) (u : Bytes),
      (encode [c] ++ u).toByteArray.utf8DecodeChar? 0 = some c := by
    intro c u
    rw [List.toByteArray_append]
    exact List.utf8DecodeChar?_utf8Encode_singleton_append ..
  have hSame := congrArg (fun b : Bytes => b.toByteArray.utf8DecodeChar? 0) h
  simp only [hDecode] at hSame
  obtain rfl := Option.some.inj hSame
  exact ⟨rfl, List.append_cancel_left h⟩

/-- A byte that stands for a character by itself. -/
def IsSingle (c : Char) (b : UInt8) : Prop := encode [c] = [b] ∧ b < 0x80

/-- A character of ASCII stands for itself. -/
theorem isSingle_of_le {c : Char} (h : c.toNat ≤ 127) : IsSingle c c.val.toUInt8 := by
  have hSize : c.utf8Size = 1 := Char.utf8Size_eq_one_iff.mpr (UInt32.le_iff_toNat_le.mpr h)
  refine ⟨?_, ?_⟩
  · rw [encode, List.flatMap_singleton, String.utf8EncodeChar_eq_singleton hSize]
  · rw [UInt8.lt_iff_toNat_lt, UInt32.toNat_toUInt8]
    exact Nat.lt_of_le_of_lt (Nat.mod_le _ _) (Nat.lt_succ_of_le h)

/-- A text of ASCII has as many bytes as characters. -/
theorem length_encode_of_ascii {cs : List Char} (h : ∀ c ∈ cs, c.toNat ≤ 127) :
    (encode cs).length = cs.length := by
  induction cs with
  | nil => rfl
  | cons c cs ih =>
    have hOne : (encode [c]).length = 1 :=
      congrArg List.length (isSingle_of_le (h c List.mem_cons_self)).1
    rw [encode_cons, List.length_append, hOne, ih fun d hMem => h d (List.mem_cons_of_mem c hMem),
      List.length_cons, Nat.add_comm]

/-- A byte of a character that takes more than one is not small. -/
theorem ne_of_large {n : Nat} {b : UInt8} (hLarge : 128 ≤ n) (hByte : n < 256)
    (hSmall : b < 0x80) : b ≠ UInt8.ofNat n := by
  rintro rfl
  rw [UInt8.lt_iff_toNat_lt, UInt8.toNat_ofNat_of_lt' hByte] at hSmall
  exact absurd hSmall (Nat.not_lt.mpr hLarge)

/-- A character with a small byte in it takes one byte. -/
theorem encode_eq_of_mem {d : Char} {b : UInt8} (hSmall : b < 0x80) (hMem : b ∈ encode [d]) :
    encode [d] = [b] := by
  have hEncode : encode [d] = String.utf8EncodeChar d := List.flatMap_singleton ..
  have hLarge : ∀ {n : Nat}, 128 ≤ n → n < 256 → b ≠ UInt8.ofNat n :=
    fun hLow hHigh => ne_of_large hLow hHigh hSmall
  rw [hEncode, String.utf8EncodeChar] at hMem ⊢
  split at hMem
  · rename_i hOne
    rw [if_pos hOne, List.mem_singleton.mp hMem]
  · exfalso
    split at hMem
    · simp only [List.mem_cons, List.not_mem_nil, or_false] at hMem
      rcases hMem with hByte | hByte <;> exact hLarge (by omega) (by omega) hByte
    · split at hMem
      · simp only [List.mem_cons, List.not_mem_nil, or_false] at hMem
        rcases hMem with hByte | hByte | hByte <;> exact hLarge (by omega) (by omega) hByte
      · simp only [List.mem_cons, List.not_mem_nil, or_false] at hMem
        rcases hMem with hByte | hByte | hByte | hByte <;> exact hLarge (by omega) (by omega) hByte

/-- Where a byte string holds the byte of a character, its text holds the character. -/
theorem exists_cut {cs : List Char} {u v : Bytes} {c : Char} {b : UInt8} (hSingle : IsSingle c b)
    (h : encode cs = u ++ b :: v) : ∃ a z, cs = a ++ c :: z ∧ u = encode a ∧ v = encode z := by
  induction cs generalizing u with
  | nil => simp [encode] at h
  | cons d cs ih =>
    rw [encode_cons, List.append_eq_append_iff] at h
    rcases h with ⟨u', rfl, hRest⟩ | ⟨w, hHead, hRest⟩
    · obtain ⟨a, z, rfl, rfl, rfl⟩ := ih hRest
      exact ⟨d :: a, z, rfl, (encode_cons d a).symm, rfl⟩
    · cases w with
      | nil =>
        rw [List.append_nil] at hHead
        obtain ⟨a, z, rfl, hNil, rfl⟩ := ih (u := []) hRest.symm
        obtain rfl : a = [] := encode_eq_nil_iff.mp hNil.symm
        exact ⟨[d], z, rfl, hHead.symm, rfl⟩
      | cons b' w =>
        obtain ⟨rfl, hBehind⟩ := List.cons.inj hRest
        -- the byte is one of the first character, which is therefore the one looked for
        have hMem : b ∈ encode [d] := by
          rw [hHead]
          exact List.mem_append_right _ (List.mem_cons_self ..)
        have hOne : encode [d] = [b] := encode_eq_of_mem hSingle.2 hMem
        obtain rfl : d = c := List.singleton_inj.mp (encode_injective (hOne.trans hSingle.1.symm))
        rw [hOne] at hHead
        have hLength := congrArg List.length hHead
        simp only [List.length_append, List.length_cons, List.length_nil] at hLength
        obtain rfl : u = [] := List.eq_nil_of_length_eq_zero (by omega)
        obtain rfl : w = [] := List.eq_nil_of_length_eq_zero (by omega)
        exact ⟨[], cs, rfl, rfl, hBehind⟩

/-- Bytes that begin with those of a text are the bytes of a text that begins with it. -/
theorem exists_append_of_encode {w z : List Char} {v : Bytes} (h : encode z = encode w ++ v) :
    ∃ rest, z = w ++ rest ∧ v = encode rest := by
  induction w generalizing z with
  | nil => exact ⟨z, rfl, h.symm⟩
  | cons c w ih =>
    cases z with
    | nil =>
      rw [show encode [] = [] from rfl, encode_cons, eq_comm, List.append_eq_nil_iff,
        List.append_eq_nil_iff] at h
      exact absurd (encode_eq_nil_iff.mp h.1.1) (List.cons_ne_nil c [])
    | cons d z =>
      rw [encode_cons, encode_cons c, List.append_assoc] at h
      obtain ⟨rfl, hRest⟩ := encode_char_append_inj h
      obtain ⟨rest, rfl, rfl⟩ := ih hRest
      exact ⟨rest, rfl, rfl⟩

/-- Where a byte string holds the bytes of a text, its text holds that text, if it begins with a
character of one byte. -/
theorem exists_cut_of_encode {cs w : List Char} {u v : Bytes} {c : Char} {b : UInt8}
    (hSingle : IsSingle c b) (h : encode cs = u ++ (encode (c :: w) ++ v)) :
    ∃ a z, cs = a ++ (c :: w ++ z) ∧ u = encode a ∧ v = encode z := by
  rw [encode_cons, hSingle.1, List.append_assoc, List.singleton_append] at h
  obtain ⟨a, behind, rfl, rfl, hBehind⟩ := exists_cut hSingle h
  obtain ⟨z, rfl, rfl⟩ := exists_append_of_encode hBehind.symm
  exact ⟨a, z, rfl, rfl, rfl⟩

/-- Texts are cut at the same place where they are cut at the same byte. -/
theorem append_inj_of_length_encode {a b x y : List Char} (h : a ++ x = b ++ y)
    (hLength : (encode a).length = (encode b).length) : a = b ∧ x = y := by
  have hBytes : encode a ++ encode x = encode b ++ encode y := by
    rw [← encode_append, h, encode_append]
  obtain rfl := encode_injective (List.append_inj_left hBytes hLength)
  exact ⟨rfl, List.append_cancel_left h⟩

/-- The size of a text is the number of its bytes. -/
theorem utf8ByteSize_ofList (cs : List Char) :
    (String.ofList cs).utf8ByteSize = (encode cs).length := by
  have hBytes : (String.ofList cs).toByteArray = (encode cs).toByteArray :=
    String.toByteArray_ofList
  rw [String.utf8ByteSize, hBytes, List.size_toByteArray]

/-- What stands before a place of a text ends, in bytes, at a boundary between characters. -/
theorem isValid_length_encode {text : String} {a z : List Char} (h : text.toList = a ++ z) :
    String.Pos.Raw.IsValid text ⟨(encode a).length⟩ := by
  refine String.Pos.Raw.isValid_iff_exists_append.mpr ⟨String.ofList a, String.ofList z, ?_, ?_⟩
  · rw [← String.ofList_append, ← h, String.ofList_toList]
  · rw [String.rawEndPos, utf8ByteSize_ofList]

end LicenseAudit.Text
