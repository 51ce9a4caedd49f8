import LicenseAudit.Text.Numeral
import LicenseAudit.Text.Utf8

/-!
# Year ranges in a text

A notice document names a range of years, such as `2018-2024`. The first year is fixed and the
last one is kept current.

* `YearRange.find?` — the first place where the fixed year, a hyphen and four digits stand;
* `YearRange.setEnd` — the text with another year at that place.
-/

namespace LicenseAudit

/-- A text cut around the end year of a range: what stands before its four digits, the digits,
and what stands behind them. -/
structure YearRange where
  before : List Char
  digits : List Char
  after : List Char
deriving DecidableEq

/-- Whether a year is written with four digits. -/
def isFourDigitYear (year : Int) : Bool := 1000 ≤ year && year ≤ 9999

namespace YearRange

/-- The decimal text of a year. -/
def yearText (year : Int) : List Char := (toString year).toList

/-- The end year of the range. -/
def year (r : YearRange) : Nat := Text.decimalValue r.digits

/-- Where the end year begins, in bytes from the start of the text. -/
def start (r : YearRange) : Nat := (Text.encode r.before).length

/-- Where the end year stops, in bytes from the start of the text. -/
def stop (r : YearRange) : Nat := r.start + (Text.encode r.digits).length

/-- The whole text. -/
def text (r : YearRange) : List Char := r.before ++ r.digits ++ r.after

/-- The text with another end year. -/
def setEnd (r : YearRange) (year : Int) : List Char := r.before ++ yearText year ++ r.after

/-- What a range begins with: its first year and the hyphen. -/
def opening (startYear : Int) : List Char := yearText startYear ++ ['-']

/-- Whether the text is four decimal digits. -/
def isYear (cs : List Char) : Bool := cs.length == 4 && cs.all Char.isDigit

/-- The range that stands at the very front of a text, if one does. -/
def atFront? (opening cs : List Char) : Option YearRange :=
  let rest := cs.drop opening.length
  if opening.isPrefixOf cs && isYear (rest.take 4) then
    some ⟨opening, rest.take 4, rest.drop 4⟩
  else none

/-- The first range with the given opening. -/
def findFrom? (opening : List Char) : List Char → Option YearRange
  | [] => atFront? opening []
  | c :: rest =>
    match atFront? opening (c :: rest) with
    | some r => some r
    | none => (findFrom? opening rest).map fun r => { r with before := c :: r.before }

/-- The first range that begins with the given year. -/
def find? (startYear : Int) (cs : List Char) : Option YearRange :=
  findFrom? (opening startYear) cs

end YearRange

end LicenseAudit
