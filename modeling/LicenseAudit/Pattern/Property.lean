import LicenseAudit.Pattern.CharSet
import LicenseAudit.Text.Lowercase.Runs
import LicenseAudit.Text.Property.ScriptExtension

/-!
# Named character sets

The names by which a pattern can ask for a property of the Unicode standard. Names are compared
without case, spaces, hyphens and underscores, and a leading `is` does not count.

* `CharSet.named?` — a property, a general category or a script, in that order;
* `CharSet.valued?` — the value of one of the properties that have named values.
-/

namespace LicenseAudit.CharSet

open Text

/-- A property name as it is compared. -/
def plainName (name : List Char) : List Char :=
  let strip (cs : List Char) :=
    (cs.filter fun c => c.toNat < 0x80 && c != ' ' && c != '-' && c != '_').map Char.toLower
  match name with
  | i :: s :: rest =>
    if i.toLower = 'i' ∧ s.toLower = 's' then
      (if strip rest = ['c'] then ['i', 's', 'c'] else strip rest)
    else strip name
  | _ => strip name

/-- Every code point. -/
def anything : CharSet := range 0 0x10FFFF

/-- All letters. -/
def letter : CharSet :=
  ofTables [categoryLu, categoryLl, categoryLt, categoryLm, categoryLo]

/-- All code points that are assigned. -/
def assigned : CharSet := ofTables
  [categoryLu, categoryLl, categoryLt, categoryLm, categoryLo, categoryMn, categoryMc,
    categoryMe, categoryNd, categoryNl, categoryNo, categoryPc, categoryPd, categoryPs,
    categoryPe, categoryPi, categoryPf, categoryPo, categorySm, categorySc, categorySk,
    categorySo, categoryZs, categoryZl, categoryZp, categoryCc, categoryCf, categoryCo,
    categoryCs]

/-- The general categories and their groups, each with its names. -/
def categories : List (List String × CharSet) :=
  [ (["any"], anything), (["assigned"], assigned), (["ascii"], range 0 0x7F),
    (["l", "letter"], letter),
    (["lc", "casedletter"], ofTables [categoryLu, categoryLl, categoryLt]),
    (["lu", "uppercaseletter"], codes categoryLu), (["ll", "lowercaseletter"], codes categoryLl),
    (["lt", "titlecaseletter"], codes categoryLt), (["lm", "modifierletter"], codes categoryLm),
    (["lo", "otherletter"], codes categoryLo),
    (["m", "mark", "combiningmark"], ofTables [categoryMn, categoryMc, categoryMe]),
    (["mn", "nonspacingmark"], codes categoryMn), (["mc", "spacingmark"], codes categoryMc),
    (["me", "enclosingmark"], codes categoryMe),
    (["n", "number"], ofTables [categoryNd, categoryNl, categoryNo]),
    (["nd", "decimalnumber", "digit"], codes categoryNd),
    (["nl", "letternumber"], codes categoryNl), (["no", "othernumber"], codes categoryNo),
    (["p", "punctuation", "punct"], ofTables
      [categoryPc, categoryPd, categoryPs, categoryPe, categoryPi, categoryPf, categoryPo]),
    (["pc", "connectorpunctuation"], codes categoryPc),
    (["pd", "dashpunctuation"], codes categoryPd), (["ps", "openpunctuation"], codes categoryPs),
    (["pe", "closepunctuation"], codes categoryPe),
    (["pi", "initialpunctuation"], codes categoryPi),
    (["pf", "finalpunctuation"], codes categoryPf), (["po", "otherpunctuation"], codes categoryPo),
    (["s", "symbol"], ofTables [categorySm, categorySc, categorySk, categorySo]),
    (["sm", "mathsymbol"], codes categorySm), (["sc", "currencysymbol"], codes categorySc),
    (["sk", "modifiersymbol"], codes categorySk), (["so", "othersymbol"], codes categorySo),
    (["z", "separator"], ofTables [categoryZs, categoryZl, categoryZp]),
    (["zs", "spaceseparator"], codes categoryZs), (["zl", "lineseparator"], codes categoryZl),
    (["zp", "paragraphseparator"], codes categoryZp),
    (["c", "other"], union (negate assigned) (ofTables [categoryCc, categoryCf, categoryCo])),
    (["cc", "control", "cntrl"], codes categoryCc), (["cf", "format"], codes categoryCf),
    (["co", "privateuse"], codes categoryCo), (["cs", "surrogate"], none),
    (["cn", "unassigned"], negate assigned) ]

/-- The property Lowercase. -/
def lowercase : CharSet := ofTables [categoryLl, otherLowercase]

/-- The property Uppercase. -/
def uppercase : CharSet := ofTables [categoryLu, otherUppercase]

/-- Characters that may start an identifier. -/
def identifierStart : CharSet := diff
  (union letter (ofTables
    [categoryNl, [⟨0x1885, 0x1886, 1⟩, ⟨0x2118, 0x2118, 1⟩, ⟨0x212E, 0x212E, 1⟩,
      ⟨0x309B, 0x309C, 1⟩]]))
  (single '\u2E2F')

/-- Characters that may stand in an identifier. -/
def identifierPart : CharSet := union identifierStart (ofTables
  [categoryMn, categoryMc, categoryNd, categoryPc,
    [⟨0xB7, 0xB7, 1⟩, ⟨0x387, 0x387, 1⟩, ⟨0x1369, 0x1371, 1⟩, ⟨0x19DA, 0x19DA, 1⟩]])

/-- Characters of identifiers that normalisation would take out of them. -/
def notNormalPart : CharSet := codes
  [⟨0x37A, 0x37A, 1⟩, ⟨0x309B, 0x309C, 1⟩, ⟨0xFC5E, 0xFC63, 1⟩, ⟨0xFDFA, 0xFDFB, 1⟩,
    ⟨0xFE70, 0xFE7E, 2⟩]

/-- As `notNormalPart`, for the start of an identifier. -/
def notNormalStart : CharSet := union notNormalPart (codes
  [⟨0xE33, 0xE33, 1⟩, ⟨0xEB3, 0xEB3, 1⟩, ⟨0xFF9E, 0xFF9F, 1⟩])

/-- The yes-or-no properties, each with its names. -/
def properties : List (List String × CharSet) :=
  [ (["alphabetic", "alpha"], alphabetic),
    (["lowercase", "lower"], lowercase), (["uppercase", "upper"], uppercase),
    (["whitespace", "wspace", "space"], blank),
    (["cased"], union (union lowercase uppercase) (codes categoryLt)),
    (["caseignorable", "ci"], codes (caseIgnorableRanges.map fun r => ⟨r.1, r.2, 1⟩)),
    (["math"], ofTables [categorySm, otherMath]),
    (["idstart", "ids"], identifierStart), (["idcontinue", "idc"], identifierPart),
    (["xidstart", "xids"], diff identifierStart notNormalStart),
    (["xidcontinue", "xidc"], diff identifierPart notNormalPart),
    (["dash"], codes dash), (["hexdigit", "hex"], codes hexDigit),
    (["asciihexdigit", "ahex"], codes asciiHexDigit), (["ideographic", "ideo"], codes ideographic),
    (["defaultignorablecodepoint", "di"], codes defaultIgnorableCodePoint),
    (["joincontrol", "joinc"], codes joinControl),
    (["noncharactercodepoint", "nchar"], codes noncharacterCodePoint),
    (["variationselector", "vs"], codes variationSelector),
    (["diacritic", "dia"], codes diacritic), (["extender", "ext"], codes extender),
    (["patternsyntax", "patsyn"], codes patternSyntax),
    (["patternwhitespace", "patws"], codes patternWhiteSpace),
    (["quotationmark", "qmark"], codes quotationMark), (["radical"], codes radical),
    (["regionalindicator", "ri"], codes regionalIndicator),
    (["sentenceterminal", "sterm"], codes sentenceTerminal),
    (["softdotted", "sd"], codes softDotted),
    (["terminalpunctuation", "term"], codes terminalPunctuation),
    (["unifiedideograph", "uideo"], codes unifiedIdeograph),
    (["bidicontrol", "bidic"], codes bidiControl), (["deprecated", "dep"], codes deprecated),
    (["emoji"], codes emoji), (["emojipresentation", "epres"], codes emojiPresentation),
    (["extendedpictographic", "extpict"], codes extendedPictographic),
    (["emojimodifier", "emod"], codes emojiModifier),
    (["emojimodifierbase", "ebase"], codes emojiModifierBase),
    (["emojicomponent", "ecomp"], codes emojiComponent),
    (["idsbinaryoperator", "idsb"], codes idsBinaryOperator),
    (["idstrinaryoperator", "idst"], codes idsTrinaryOperator),
    (["logicalorderexception", "loe"], codes logicalOrderException),
    (["prependedconcatenationmark", "pcm"], codes prependedConcatenationMark) ]

/-- Looks a name up in a table of names. -/
def lookUp? {α : Type} (table : List (List String × α)) (name : String) : Option α :=
  (table.find? fun row => row.1.contains name).map (·.2)

/-- The characters of a script. -/
def script? (name : String) : Option CharSet :=
  (lookUp? scripts name).map codes

/-- The characters that are used with a script. -/
def scriptExtension? (name : String) : Option CharSet := do
  let row ← scripts.find? fun row => row.1.contains name
  let owned := codes row.2
  match row.1.head? with
  | some "common" | some "inherited" =>
    return diff owned (ofTables (scriptExtensions.map (·.2)))
  | some first => return union owned (codes ((scriptExtensions.lookup first).getD []))
  | Option.none => return owned

/-- The set that a property name on its own stands for. Three short names that could also be
properties stand for categories. -/
def named? (name : List Char) : Option CharSet :=
  let plain := String.ofList (plainName name)
  let property? := if plain ∈ ["cf", "sc", "lc"] then Option.none else lookUp? properties plain
  (property?.or (lookUp? categories plain)).or (script? plain)

/-- The set of the characters for which a property has a value. -/
def valued? (property value : List Char) : Option CharSet :=
  let plain := String.ofList (plainName value)
  match String.ofList (plainName property) with
  | "generalcategory" | "gc" => lookUp? categories plain
  | "script" | "sc" => script? plain
  | "scriptextensions" | "scx" => scriptExtension? plain
  | _ => Option.none

end LicenseAudit.CharSet
