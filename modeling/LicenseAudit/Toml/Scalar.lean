import LicenseAudit.Text.Numeral
import LicenseAudit.Toml.Value

/-!
# Scalars without quotes

Numbers, keywords, dates and times of a TOML document. A scalar is first cut out of the
document as a whole; `Scalar.read?` says which value it writes down, if any.

Underscores may stand between two digits. Decimal integers have no leading zeros; signs stand
before decimal numbers only.
-/

namespace LicenseAudit.Toml.Scalar

/-- The digits of a number without the underscores between them, and the rest of the text.
There is no answer if the text does not begin with a digit or an underscore is not followed by
one. -/
def digitRun? (isDigit : Char → Bool) : List Char → Option (List Char × List Char)
  | [] => none
  | c :: rest =>
    if !isDigit c then none
    else match rest with
      | [] => some ([c], [])
      | '_' :: more => (digitRun? isDigit more).map fun (ds, after) => (c :: ds, after)
      | d :: more =>
        if isDigit d then (digitRun? isDigit (d :: more)).map fun (ds, after) => (c :: ds, after)
        else some ([c], d :: more)

/-- A number in a base other than ten, without its mark. -/
def radixInteger? (base : Nat) (cs : List Char) : Option Value :=
  let isDigit c := match Text.digitValue? c with
    | some d => decide (d < base)
    | none => false
  match digitRun? isDigit cs with
  | some (digits, []) => some (.integer (Text.numeralValue base digits))
  | _ => none

/-- The exponent of a number, as far as it goes on after its mark. -/
def exponent? (cs : List Char) : Option Int :=
  let (negative, digits) := match cs with
    | '+' :: rest => (false, rest)
    | '-' :: rest => (true, rest)
    | _ => (false, cs)
  match digitRun? Char.isDigit digits with
  | some (digits, []) =>
    let n := Text.decimalValue digits
    some (if negative then -(n : Int) else n)
  | _ => none

/-- The mark of an exponent. -/
def isExponentMark (c : Char) : Bool := c = 'e' || c = 'E'

/-- A decimal number without its sign. -/
def decimal? (negative : Bool) (cs : List Char) : Option Value :=
  match digitRun? Char.isDigit cs with
  | none => none
  | some (whole, rest) =>
    if whole.head? = some '0' && 1 < whole.length then none
    else match rest with
      | [] =>
        let n := Text.decimalValue whole
        some (.integer (if negative then -(n : Int) else n))
      | '.' :: more =>
        match digitRun? Char.isDigit more with
        | none => none
        | some (places, after) =>
          let mantissa := Text.decimalValue (whole ++ places)
          match after with
          | [] => some (.float (.decimal negative mantissa (-(places.length : Int))))
          | c :: tail =>
            if isExponentMark c then
              (exponent? tail).map fun e =>
                .float (.decimal negative mantissa (e - (places.length : Int)))
            else none
      | c :: tail =>
        if isExponentMark c then
          (exponent? tail).map fun e => .float (.decimal negative (Text.decimalValue whole) e)
        else none

/-- A number behind its sign: a decimal number or a special one. -/
def signed? (negative : Bool) (cs : List Char) : Option Value :=
  if cs = "inf".toList || cs = "nan".toList then
    some (.float (.special ((if negative then "-" else "") ++ String.ofList cs)))
  else decimal? negative cs

/-! ## Dates and times -/

/-- Exactly so many decimal digits and the rest of the text. -/
def fixedDigits? (count : Nat) (cs : List Char) : Option (Nat × List Char) :=
  let digits := cs.take count
  if digits.length = count && digits.all Char.isDigit then
    some (Text.decimalValue digits, cs.drop count)
  else none

/-- The text behind one given character. -/
def behind? (c : Char) : List Char → Option (List Char)
  | d :: rest => if c = d then some rest else none
  | [] => none

/-- Whether a year has a twenty-ninth of February. -/
def isLeapYear (year : Nat) : Bool :=
  year % 4 = 0 && (year % 100 ≠ 0 || year % 400 = 0)

/-- How many days a month has. -/
def daysIn (year month : Nat) : Nat :=
  if month = 2 then (if isLeapYear year then 29 else 28)
  else if month ∈ [4, 6, 9, 11] then 30
  else 31

/-- Passes over a date. -/
def date? (cs : List Char) : Option (List Char) := do
  let (year, cs) ← fixedDigits? 4 cs
  let (month, cs) ← fixedDigits? 2 (← behind? '-' cs)
  let (day, cs) ← fixedDigits? 2 (← behind? '-' cs)
  if 1 ≤ month && month ≤ 12 && 1 ≤ day && day ≤ daysIn year month then some cs else none

/-- Passes over the fraction of a second, if there is one. -/
def fraction? (cs : List Char) : Option (List Char) :=
  match behind? '.' cs with
  | none => some cs
  | some rest =>
    if rest.head?.any Char.isDigit then some (rest.dropWhile Char.isDigit) else none

/-- Passes over the seconds of a time, if there are any. -/
def seconds? (cs : List Char) : Option (List Char) :=
  match behind? ':' cs with
  | none => some cs
  | some rest =>
    match fixedDigits? 2 rest with
    | some (second, rest) => if second ≤ 60 then fraction? rest else none
    | none => none

/-- Passes over hours and minutes. -/
def minutes? (cs : List Char) : Option (List Char) := do
  let (hour, cs) ← fixedDigits? 2 cs
  let (minute, cs) ← fixedDigits? 2 (← behind? ':' cs)
  if hour ≤ 23 && minute ≤ 59 then some cs else none

/-- Passes over a time of the day. -/
def time? (cs : List Char) : Option (List Char) :=
  (minutes? cs).bind seconds?

/-- Passes over the distance from universal time, if there is one. -/
def offset? (cs : List Char) : Option (List Char) :=
  match cs with
  | 'Z' :: rest | 'z' :: rest => some rest
  | '+' :: rest | '-' :: rest => minutes? rest
  | _ => some cs

/-- Whether a character joins a date and a time. -/
def joinsTime (c : Char) : Bool := c = 'T' || c = 't' || c = ' '

/-- Whether the text is a date, a time, or a date with a time. -/
def isMoment (cs : List Char) : Bool :=
  match date? cs with
  | some [] => true
  | some (c :: rest) => joinsTime c && ((time? rest).bind offset?) == some []
  | none => time? cs == some []

/-! ## Whole scalars -/

/-- The value that a scalar without quotes writes down. -/
def read? (text : List Char) : Option Value :=
  if isMoment text then some (.moment (String.ofList text))
  else match text with
    | '0' :: 'x' :: rest => radixInteger? 16 rest
    | '0' :: 'o' :: rest => radixInteger? 8 rest
    | '0' :: 'b' :: rest => radixInteger? 2 rest
    | '+' :: rest => signed? false rest
    | '-' :: rest => signed? true rest
    | _ =>
      if text = "true".toList then some (.boolean true)
      else if text = "false".toList then some (.boolean false)
      else signed? false text

/-- Whether a character can be a part of a scalar without quotes. -/
def isPart (c : Char) : Bool :=
  c.isAlphanum || c = '_' || c = '+' || c = '-' || c = '.' || c = ':'

/-- Cuts a scalar off the front of a text. A date and a time may have one blank between them. -/
def cut (cs : List Char) : List Char × List Char :=
  let text := cs.takeWhile isPart
  match cs.dropWhile isPart with
  | ' ' :: d :: rest =>
    if date? text == some [] && d.isDigit then
      (text ++ ' ' :: (d :: rest).takeWhile isPart, (d :: rest).dropWhile isPart)
    else (text, ' ' :: d :: rest)
  | rest => (text, rest)

end LicenseAudit.Toml.Scalar
