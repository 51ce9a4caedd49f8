/-!
# Numerals

Numbers and characters that a text writes down by digits.

* `digitValue?` — the value of one digit, in bases up to sixteen;
* `numeralValue` — the number that digits write down in a base;
* `decimalValue` — the same for decimal digits;
* `scalarValue?` — the character with a number.
-/

namespace LicenseAudit.Text

/-- The value of a digit in bases up to sixteen. -/
def digitValue? (c : Char) : Option Nat :=
  if c.isDigit then some (c.toNat - '0'.toNat)
  else if 'a' ≤ c ∧ c ≤ 'f' then some (c.toNat - 'a'.toNat + 10)
  else if 'A' ≤ c ∧ c ≤ 'F' then some (c.toNat - 'A'.toNat + 10)
  else none

/-- The number that digits write down in a base. -/
def numeralValue (base : Nat) (digits : List Char) : Nat :=
  digits.foldl (fun n c => n * base + (digitValue? c).getD 0) 0

/-- The number that decimal digits write down. -/
def decimalValue (digits : List Char) : Nat :=
  digits.foldl (fun n c => 10 * n + (c.toNat - '0'.toNat)) 0

/-- One more digit makes a number ten times as great and adds its value. -/
theorem decimalValue_concat (digits : List Char) (c : Char) :
    decimalValue (digits ++ [c]) = 10 * decimalValue digits + (c.toNat - '0'.toNat) := by
  simp [decimalValue]

/-- Decimal digits are read back as the number that they were written for. -/
theorem decimalValue_toDigits (n : Nat) : decimalValue (Nat.toDigits 10 n) = n := by
  induction n using Nat.strongRecOn with
  | ind n ih =>
    have hDigit : ∀ d < 10, (Nat.digitChar d).toNat - '0'.toNat = d := by decide
    rw [Nat.toDigits_eq_if (by omega)]
    by_cases hSmall : n < 10
    · rw [if_pos hSmall]
      simpa [decimalValue] using hDigit n hSmall
    · rw [if_neg hSmall, decimalValue_concat, ih (n / 10) (by omega),
        hDigit (n % 10) (Nat.mod_lt n (by omega))]
      omega

/-- The character with the given number, if there is one. -/
def scalarValue? (n : Nat) : Option Char :=
  if h : n.isValidChar then some (Char.ofNatAux n h) else none

end LicenseAudit.Text
