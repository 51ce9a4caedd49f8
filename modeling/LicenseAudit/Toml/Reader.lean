import LicenseAudit.Toml.Document
import LicenseAudit.Toml.Scalar

/-!
# Reading a document

From a text to the entries of its top table, by the rules of TOML 1.1.

* `Toml.read` — the entries that a text writes down;
* `Quoting` — the four kinds of quoted text.

Readers take what they understand from the front of the text. Values may be nested in one
another up to a fixed depth, which also bounds the recursion; loops are bounded by the length of
the text.
-/

namespace LicenseAudit.Toml

/-- A reader of a part of a document. -/
abbrev Reader := StateT (List Char) (Except TomlError)

/-- Arrays and inline tables may stand inside one another this many times. -/
def nestingLimit : Nat := 79

/-! ## Blanks, comments and line breaks -/

/-- Whether a character may not stand in comments and strings. -/
def isControl (c : Char) : Bool :=
  (c.toNat < 0x20 && c != '\t') || c.toNat = 0x7F

/-- Whether a character is a blank inside a line. -/
def isSpace (c : Char) : Bool := c = ' ' || c = '\t'

/-- The text behind a comment, up to the line break. -/
def behindComment : List Char → Except TomlError (List Char)
  | [] => .ok []
  | '\n' :: rest => .ok ('\n' :: rest)
  | '\r' :: '\n' :: rest => .ok ('\r' :: '\n' :: rest)
  | c :: rest => if isControl c then .error .badCharacter else behindComment rest

/-- The text behind one line break, if it begins with one. -/
def behindBreak? : List Char → Option (List Char)
  | '\n' :: rest => some rest
  | '\r' :: '\n' :: rest => some rest
  | _ => none

namespace Reader

/-- Passes over blanks. -/
def skipSpaces : Reader Unit := modify fun cs => cs.dropWhile isSpace

/-- Passes over a comment, if one comes next. -/
def skipComment : Reader Unit := do
  match ← get with
  | '#' :: rest => set (← behindComment rest)
  | _ => return

/-- Passes over a line break, if one comes next, and says whether one did. -/
def acceptBreak : Reader Bool := do
  match behindBreak? (← get) with
  | some rest =>
    set rest
    return true
  | none => return false

/-- Passes over a character, if it comes next, and says whether it did. -/
def accept (c : Char) : Reader Bool := do
  match ← get with
  | d :: rest =>
    if c = d then
      set rest
      return true
    else return false
  | [] => return false

/-- Passes over blanks, comments and line breaks; the number bounds how many lines. -/
def skipLines : Nat → Reader Unit
  | 0 => return
  | n + 1 => do
    skipSpaces
    skipComment
    if ← acceptBreak then skipLines n

/-- Passes over blanks, comments and line breaks. -/
def skipAllLines : Reader Unit := do
  skipLines ((← get).length + 1)

/-- Passes over what may still stand behind a statement, and the end of the line. -/
def endLine : Reader Unit := do
  skipSpaces
  skipComment
  if !(← get).isEmpty then
    if !(← acceptBreak) then throw .textAfterStatement

end Reader

/-! ## Quoted text -/

/-- A kind of quoted text: its quotation mark, whether a backslash begins an escape, and whether
it may go over several lines. -/
structure Quoting where
  mark : Char
  escapes : Bool
  multiLine : Bool

/-- What a reader of quoted text is in the middle of. -/
inductive Pending where
  | nothing
  | escape
  /-- Hexadecimal digits: how many are left and the value so far. -/
  | digits (left value : Nat)
  /-- Blank space that an escape joins the lines over; whether a line break was seen. -/
  | joining (broken : Bool)

namespace Pending

/-- Whether the quoted text may end here. -/
def isSettled : Pending → Bool
  | nothing => true
  | joining broken => broken
  | _ => false

end Pending

/-- The character that a one-letter escape stands for. -/
def simpleEscape? : Char → Option Char
  | 'b' => some '\x08'
  | 't' => some '\t'
  | 'n' => some '\n'
  | 'f' => some '\x0C'
  | 'r' => some '\r'
  | 'e' => some '\x1B'
  | '"' => some '"'
  | '\\' => some '\\'
  | _ => none

/-- How many hexadecimal digits follow the letter of an escape. -/
def escapeWidth? : Char → Option Nat
  | 'x' => some 2
  | 'u' => some 4
  | 'U' => some 8
  | _ => none

namespace Quoting

/-- Text with escapes in one line. -/
def basic : Quoting := ⟨'"', true, false⟩

/-- Text without escapes in one line. -/
def literal : Quoting := ⟨'\'', false, false⟩

/-- If the quoted text ends here: what still belongs to it, and the text behind it. Text over
several lines ends with three marks, before which one or two more belong to the text. -/
def closing? (q : Quoting) (cs : List Char) : Option (List Char × List Char) :=
  let marks := (cs.takeWhile (· = q.mark)).length
  if q.multiLine then
    if marks < 3 then none
    else some (List.replicate (min marks 5 - 3) q.mark, cs.drop (min marks 5))
  else if marks = 0 then none
  else some ([], cs.drop 1)

/-- Reads an ordinary character; `next?` is the one behind it. -/
def plainStep (q : Quoting) (c : Char) (next? : Option Char) :
    Except TomlError (List Char × Pending) :=
  if q.escapes && c = '\\' then .ok ([], .escape)
  else if c = '\n' then
    if q.multiLine then .ok ([c], .nothing) else .error .unclosedString
  else if c = '\r' then
    if q.multiLine && next? = some '\n' then .ok ([c], .nothing) else .error .badLineBreak
  else if isControl c then .error .badCharacter
  else .ok ([c], .nothing)

/-- Reads a character of the blank space that an escape joins the lines over. -/
def joinStep (q : Quoting) (broken : Bool) (c : Char) (next? : Option Char) :
    Except TomlError (List Char × Pending) :=
  if isSpace c then .ok ([], .joining broken)
  else if c = '\n' then .ok ([], .joining true)
  else if c = '\r' then
    if next? = some '\n' then .ok ([], .joining broken) else .error .badLineBreak
  else if broken then q.plainStep c next?
  else .error .badEscape

/-- Reads one character: what it adds to the text and what is pending after it. -/
def step (q : Quoting) (c : Char) (next? : Option Char) :
    Pending → Except TomlError (List Char × Pending)
  | .nothing => q.plainStep c next?
  | .escape =>
    match simpleEscape? c with
    | some d => .ok ([d], .nothing)
    | none =>
      match escapeWidth? c with
      | some width => .ok ([], .digits width 0)
      | none => if q.multiLine then q.joinStep false c next? else .error .badEscape
  | .digits left value =>
    match Text.digitValue? c with
    | none => .error .badEscape
    | some d =>
      if 1 < left then .ok ([], .digits (left - 1) (value * 16 + d))
      else match Text.scalarValue? (value * 16 + d) with
        | some c => .ok ([c], .nothing)
        | none => .error .badEscape
  | .joining broken => q.joinStep broken c next?

/-- Reads quoted text behind its opening mark: the text, and what follows the closing mark. -/
def readFrom (q : Quoting) : Pending → List Char → Except TomlError (List Char × List Char)
  | _, [] => .error .unclosedString
  | pending, c :: rest =>
    match if pending.isSettled then q.closing? (c :: rest) else none with
    | some closed => .ok closed
    | none => do
      let (kept, pending) ← q.step c rest.head? pending
      let (more, after) ← readFrom q pending rest
      return (kept ++ more, after)

/-- Reads quoted text behind its opening mark. -/
def reader (q : Quoting) : Reader String := do
  let (text, after) ← q.readFrom .nothing (← get)
  set after
  return String.ofList text

/-- Reads quoted text over several lines. A line break right behind the opening mark does not
count. -/
def linesReader (q : Quoting) : Reader String := do
  let _ ← Reader.acceptBreak
  { q with multiLine := true }.reader

end Quoting

namespace Reader

/-- Reads the rest of a quoted value whose first mark was read. Three marks open text over
several lines. -/
def quotedValue (q : Quoting) : Reader String := do
  match ← get with
  | a :: b :: rest =>
    if a = q.mark && b = q.mark then
      set rest
      q.linesReader
    else q.reader
  | _ => q.reader

/-! ## Keys -/

/-- Whether a character may stand in a key without quotes. -/
def isKeyChar (c : Char) : Bool := c.isAlphanum || c = '_' || c = '-'

/-- Reads one part of a key. -/
def keyPart : Reader String := do
  if ← accept '"' then Quoting.basic.reader
  else if ← accept '\'' then Quoting.literal.reader
  else
    let cs ← get
    let key := cs.takeWhile isKeyChar
    if key.isEmpty then throw .missingKey
    set (cs.dropWhile isKeyChar)
    return String.ofList key

/-- Reads the parts of a key between dots; the number bounds how many. -/
def keyParts : Nat → Reader (List String)
  | 0 => throw .missingKey
  | n + 1 => do
    skipSpaces
    let key ← keyPart
    skipSpaces
    if ← accept '.' then return key :: (← keyParts n) else return [key]

/-- Reads a key, with the blanks around it. -/
def key : Reader (List String) := do
  keyParts ((← get).length + 1)

/-! ## Values -/

/-- Reads values with commas between them up to the closing mark; a comma may also follow the
last one. Line breaks and comments do not count. The number bounds how many. -/
def separated {α : Type} (close : Char) (unclosed : TomlError) (element : Reader α) :
    Nat → Reader (List α)
  | 0 => throw unclosed
  | n + 1 => do
    skipAllLines
    if ← accept close then return []
    let first ← element
    skipAllLines
    if ← accept ',' then return first :: (← separated close unclosed element n)
    if ← accept close then return [first]
    throw unclosed

/-- Reads a scalar without quotes. -/
def scalar : Reader Value := do
  let (text, rest) := Scalar.cut (← get)
  if text.isEmpty then throw .missingValue
  set rest
  match Scalar.read? text with
  | some v => return v
  | none => throw (.badScalar (String.ofList text))

/-- Reads a key, the equals sign and the value. -/
def keyValue (value : Reader Value) : Reader (List String × Value) := do
  let path ← key
  if !(← accept '=') then throw .missingEquals
  skipSpaces
  return (path, ← value)

/-- Reads the entries of an inline table behind its opening brace. -/
def inlineTable (value : Reader Value) : Reader Value := do
  let pairs ← separated '\x7d' .unclosedTable (keyValue value) ((← get).length + 1)
  let d ← pairs.foldlM (fun d pair => d.addValue pair.1 pair.2) Document.empty
  return .table (entryValues d.entries)

/-- Reads a value whose parts are read by the given reader; without one there may be no
parts. -/
def valueOf (nested? : Option (Reader Value)) : Reader Value := do
  if ← accept '"' then return .string (← quotedValue .basic)
  if ← accept '\'' then return .string (← quotedValue .literal)
  if ← accept '[' then
    match nested? with
    | some nested => return .array (← separated ']' .unclosedArray nested ((← get).length + 1))
    | none => throw .tooDeep
  if ← accept '\x7b' then
    match nested? with
    | some nested => inlineTable nested
    | none => throw .tooDeep
  else scalar

/-- Reads a value with at most so many values inside one another. -/
def value : Nat → Reader Value
  | 0 => valueOf none
  | depth + 1 => valueOf (some (value depth))

/-! ## Statements -/

/-- Reads the rest of a table header whose first bracket was read. -/
def header (d : Document) : Reader Document := do
  let element ← accept '['
  let path ← key
  if !(← accept ']') then throw .unclosedHeader
  if element then
    if !(← accept ']') then throw .unclosedHeader
  d.openTable path element

/-- Reads one statement. -/
def statement (d : Document) : Reader Document := do
  if ← accept '[' then header d
  else
    let (path, v) ← keyValue (value nestingLimit)
    d.addValue path v

/-- Reads statements, one a line, up to the end of the text; the number bounds how many. -/
def statements (d : Document) : Nat → Reader Document
  | 0 => return d
  | n + 1 => do
    skipAllLines
    if (← get).isEmpty then return d
    let d ← statement d
    endLine
    statements d n

end Reader

/-- The text without a byte order mark at its front. -/
def dropMark : List Char → List Char
  | '\uFEFF' :: rest => rest
  | cs => cs

/-- The entries of the document that a text writes down. -/
def read (text : String) : Except TomlError (List (String × Value)) := do
  let cs := dropMark text.toList
  let (d, _) ← (Reader.statements .empty (cs.length + 1)).run cs
  return entryValues d.entries

end LicenseAudit.Toml
