/-!
# Bytes of a text

File contents are byte strings, texts are lists of characters, and UTF-8 joins the two.

* `Bytes` — a byte string;
* `encode` — the UTF-8 form of a text;
* `decode?` — the text that a byte string is the UTF-8 form of, if it is one;
* `decode?_encode` — reading back what was written.
-/

namespace LicenseAudit

/-- A byte string: the content of a file. -/
abbrev Bytes := List UInt8

namespace Text

/-- The UTF-8 form of a text. -/
def encode (cs : List Char) : Bytes :=
  cs.flatMap String.utf8EncodeChar

/-- The text whose UTF-8 form the bytes are. -/
def decode? (bytes : Bytes) : Option (List Char) :=
  bytes.toByteArray.utf8Decode?.map (·.toList)

theorem encode_append (a b : List Char) : encode (a ++ b) = encode a ++ encode b := by
  simp [encode]

theorem decode?_encode (cs : List Char) : decode? (encode cs) = some cs := by
  have : (encode cs).toByteArray = cs.utf8Encode := rfl
  rw [decode?, this]
  simp

end Text

end LicenseAudit
