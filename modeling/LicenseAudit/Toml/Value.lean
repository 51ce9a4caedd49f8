/-!
# Values of a configuration document

What a TOML document can say: the type of its values, and the reasons why a text is no
document or a document does not have the wanted shape.

* `Value` — scalars, arrays and tables; the entries of a table are in the order of the document
  and no key occurs twice;
* `Value.isRepresentable` — whether every number in a value has a machine representation;
* `TomlError` — what can be wrong.
-/

namespace LicenseAudit

/-- Why a text does not give the wanted document. -/
inductive TomlError where
  | missingKey
  | missingEquals
  | missingValue
  | badScalar (text : String)
  | badCharacter
  | badEscape
  | badLineBreak
  | unclosedString
  | unclosedHeader
  | unclosedArray
  | unclosedTable
  | textAfterStatement
  | duplicateKey (key : String)
  | notExtensible (key : String)
  | tooDeep
  | numberTooLarge
  | wrongType (expected : String)
  | missingField (name : String)
deriving DecidableEq

/-- What is wrong with the text or the document. -/
def TomlError.message : TomlError → String
  | missingKey => "missing key"
  | missingEquals => "missing equals sign after key"
  | missingValue => "missing value"
  | badScalar text => "invalid number, date or keyword: " ++ text
  | badCharacter => "invalid control character"
  | badEscape => "invalid escape sequence"
  | badLineBreak => "carriage return must be followed by a line feed"
  | unclosedString => "unclosed string"
  | unclosedHeader => "unclosed table header"
  | unclosedArray => "unclosed array"
  | unclosedTable => "unclosed inline table"
  | textAfterStatement => "unexpected text at the end of a line"
  | duplicateKey key => "duplicate key: " ++ key
  | notExtensible key => "cannot add to the value of key: " ++ key
  | tooDeep => "values are nested too deeply"
  | numberTooLarge => "number is too large"
  | wrongType expected => "invalid type, expected " ++ expected
  | missingField name => "missing field: " ++ name

namespace Toml

/-- A floating-point number as it was written: `mantissa · 10 ^ exponent`, or a special value. -/
inductive FloatText where
  | decimal (negative : Bool) (mantissa : Nat) (exponent : Int)
  | special (text : String)
deriving DecidableEq

/-- A value of a document. -/
inductive Value where
  | string (s : String)
  | integer (n : Int)
  | float (f : FloatText)
  | boolean (b : Bool)
  /-- A date, a time or both, as it was written. -/
  | moment (text : String)
  | array (items : List Value)
  | table (entries : List (String × Value))

/-- The least number that no longer rounds to a finite number of 64 bits. -/
def floatBound : Nat := Nat.pow 2 1024 - Nat.pow 2 970

/-- How many decimal digits a number has. -/
def digitCount (n : Nat) : Nat := (toString n).length

/-- Whether a floating-point number is finite after rounding, or special. Numbers far from the
bound are told by their count of digits. -/
def FloatText.isRepresentable : FloatText → Bool
  | special _ => true
  | decimal _ mantissa exponent =>
    let magnitude := (digitCount mantissa : Int) + exponent
    if mantissa = 0 || magnitude < 308 then true
    else if 310 < magnitude then false
    else if 0 ≤ exponent then mantissa * Nat.pow 10 exponent.toNat < floatBound
    else mantissa < floatBound * Nat.pow 10 (-exponent).toNat

/-- Whether an integer fits into 128 bits, with or without a sign. -/
def isRepresentableInteger (n : Int) : Bool := -Int.pow 2 127 ≤ n && n < Int.pow 2 128

mutual

/-- Whether every number in the value has a machine representation. -/
def Value.isRepresentable : Value → Bool
  | .string _ | .boolean _ | .moment _ => true
  | .integer n => isRepresentableInteger n
  | .float f => f.isRepresentable
  | .array items => allRepresentable items
  | .table entries => allEntriesRepresentable entries

/-- Whether every number in the values has a machine representation. -/
def allRepresentable : List Value → Bool
  | [] => true
  | v :: rest => v.isRepresentable && allRepresentable rest

/-- Whether every number in the entries has a machine representation. -/
def allEntriesRepresentable : List (String × Value) → Bool
  | [] => true
  | (_, v) :: rest => v.isRepresentable && allEntriesRepresentable rest

end

end Toml

end LicenseAudit
