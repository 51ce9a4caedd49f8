import LicenseAudit.Text.Lowercase.Runs

/-!
# Lowercasing a text

File names, extensions and the keys of style overrides are compared after lowercasing by the
full, language-independent rules of the Unicode standard:

* `lowerChar` — the lowercase form of one character on its own;
* `lowercase` — a whole text. The one rule that looks at the neighbours is the final sigma:
  a capital sigma that ends a word becomes `ς` and any other one becomes `σ`.
-/

namespace LicenseAudit.Text

/-- The lowercase form of a character on its own. Only the capital I with a dot above needs
two characters. -/
def lowerChar (c : Char) : List Char :=
  if c.toNat < 0x80 then [c.toLower]
  else if c = 'İ' then ['i', '\u0307']
  else match lowerRuns.findSome? (·.image? c.toNat) with
    | some n => [Char.ofNat n]
    | none => [c]

/-- Whether a character has the property Cased. -/
def isCased (c : Char) : Bool :=
  if c.toNat < 0x80 then c.isAlpha else inRanges casedRanges c.toNat

/-- Whether a character has the property Case_Ignorable. -/
def isCaseIgnorable (c : Char) : Bool :=
  inRanges caseIgnorableRanges c.toNat

/-- Whether a text, read from its start, reaches a cased character over nothing but
case-ignorable ones. -/
def reachesCased (cs : List Char) : Bool :=
  match cs.dropWhile isCaseIgnorable with
  | c :: _ => isCased c
  | [] => false

/-- Lowercases the second text, which follows the first one; the first is given reversed. -/
def lowercaseAfter (before : List Char) : List Char → List Char
  | [] => []
  | c :: rest =>
    let lower :=
      if c = 'Σ' then [if reachesCased before && !reachesCased rest then 'ς' else 'σ']
      else lowerChar c
    lower ++ lowercaseAfter (c :: before) rest

/-- A text in lowercase. -/
def lowercase (cs : List Char) : List Char :=
  lowercaseAfter [] cs

/-- A string in lowercase. -/
def lowercaseString (s : String) : String :=
  String.ofList (lowercase s.toList)

end LicenseAudit.Text
