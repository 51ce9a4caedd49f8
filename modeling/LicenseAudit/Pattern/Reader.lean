import LicenseAudit.Pattern.Cost
import LicenseAudit.Pattern.Property
import LicenseAudit.Text.Numeral

/-!
# Reading a pattern

Patterns are written as regular expressions: literals and escapes, classes with set
operations, groups, flags, assertions, choice and repetition. There are no back-references and
no look-around.

* `PatternError` — why a text is no pattern;
* `Pattern.parse` — the pattern that a text writes down.

Reading goes from left to right. The flags in force and the group names seen so far are part of
the reader's state; a flag set inside a group ends with the group. Every reader that calls
itself has a bound on the depth of its calls, which the length of the text never reaches.
-/

namespace LicenseAudit

/-- Why a text is no pattern. -/
inductive PatternError where
  | unclosedGroup
  | unopenedGroup
  | badGroupName
  | lookAround
  | badFlags
  | unclosedClass
  | badClassItem
  | badClassRange
  | badEscape
  | backReference
  | unknownProperty
  | missingOperand
  | badRepetition
  | notUtf8
  | tooDeep
  | tooLarge
deriving DecidableEq

/-- What is wrong with a text that is no pattern. -/
def PatternError.message : PatternError → String
  | unclosedGroup => "unclosed group"
  | unopenedGroup => "unopened group"
  | badGroupName => "invalid or repeated capture group name"
  | lookAround => "look-around is not supported"
  | badFlags => "invalid flags"
  | unclosedClass => "unclosed character class"
  | badClassItem => "invalid item in a character class"
  | badClassRange => "invalid character class range"
  | badEscape => "invalid escape sequence"
  | backReference => "back-references are not supported"
  | unknownProperty => "unknown character property"
  | missingOperand => "repetition operator missing expression"
  | badRepetition => "invalid repetition count"
  | notUtf8 => "pattern can match invalid UTF-8"
  | tooDeep => "pattern is nested too deeply"
  | tooLarge => "pattern is too large"

namespace Pattern

/-! ## The reader's state -/

/-- The flags in force. -/
structure Flags where
  caseless : Bool := false
  multiLine : Bool := false
  dotAll : Bool := false
  unicode : Bool := true
  crlf : Bool := false
  verbose : Bool := false

/-- What is left to read, the flags in force, and the group names in use. -/
structure ReadState where
  rest : List Char
  flags : Flags
  names : List (List Char)

/-- A reader of a part of a pattern. -/
abbrev Reader := StateT ReadState (Except PatternError)

namespace Reader

/-- The next character, which stays. -/
def peek : Reader (Option Char) := do
  return (← get).rest.head?

/-- Whether the rest begins with the given characters. -/
def looksAt (cs : String) : Reader Bool := do
  return cs.toList.isPrefixOf (← get).rest

/-- Passes over so many characters. -/
def skip (n : Nat) : Reader Unit :=
  modify fun s => { s with rest := s.rest.drop n }

/-- A text without the white space and comments at its front. -/
def dropIgnored (inComment : Bool) : List Char → List Char
  | [] => []
  | c :: rest =>
    if inComment then dropIgnored (c != '\n') rest
    else if Text.isBlank c then dropIgnored false rest
    else if c = '#' then dropIgnored true rest
    else c :: rest

/-- Passes over white space and comments where the flags make them insignificant. -/
def skipSpace : Reader Unit :=
  modify fun s => if s.flags.verbose then { s with rest := dropIgnored false s.rest } else s

/-- Passes over one character and the insignificant space behind it. -/
def advance : Reader Unit := do
  skip 1
  skipSpace

/-- Passes over the given characters if they come next, and says whether they did. -/
def accept (cs : String) : Reader Bool := do
  if ← looksAt cs then
    skip cs.length
    return true
  else return false

/-- The next character, which must exist and is passed over. -/
def next (e : PatternError) : Reader Char := do
  match ← peek with
  | some c =>
    skip 1
    return c
  | none => throw e

/-- The next character, which must exist and stays. -/
def must (e : PatternError) : Reader Char := do
  match ← peek with
  | some c => return c
  | none => throw e

end Reader

open Reader

/-! ## Characters and escapes -/

/-- What a single item of a pattern or of a class can be. `byte` marks a character that was
written as two hexadecimal digits. -/
inductive Atom where
  | char (c : Char) (byte : Bool)
  | set (s : CharSet)
  | assertion (a : Assertion)

/-- Characters that an escape makes literal because they mean something else bare. -/
def metaChars : List Char := "\\.+*?()|[]\x7b\x7d^$#&-~".toList

/-- Whether a backslash before the character makes it stand for itself. -/
def standsForItself (c : Char) : Bool :=
  metaChars.contains c || (c.toNat < 0x80 && !c.isAlphanum && c != '<' && c != '>')

/-- Reads a fixed count of hexadecimal digits behind the one already seen. -/
def hexDigits (value : Nat) : Nat → Reader Nat
  | 0 => return value
  | n + 1 => do
    let some digit := Text.digitValue? (← must .badEscape) | throw .badEscape
    advance
    hexDigits (value * 16 + digit) n

/-- Reads hexadecimal digits up to a closing brace. -/
def hexBraces (value : Nat) (seen : Bool) : Nat → Reader Nat
  | 0 => throw .badEscape
  | n + 1 => do
    let c ← must .badEscape
    advance
    if c = '\x7d' then
      if seen then return value else throw .badEscape
    else match Text.digitValue? c with
      | some digit => hexBraces (min (value * 16 + digit) 0x110000) true n
      | none => throw .badEscape

/-- Reads an escape that gives a character by its number; `width` digits if no brace follows. -/
def hexEscape (width : Nat) : Reader Atom := do
  advance
  if (← must .badEscape) = '\x7b' then
    advance
    match Text.scalarValue? (← hexBraces 0 false ((← get).rest.length + 1)) with
    | some c => return .char c false
    | none => throw .badEscape
  else
    match Text.scalarValue? (← hexDigits 0 width) with
    | some c => return .char c (width = 2)
    | none => throw .badEscape

/-- Closes a set under case if the flags ask for it, then negates it if asked to. -/
def foldAndNegate (flags : Flags) (negated : Bool) (s : CharSet) : CharSet :=
  let folded :=
    if flags.caseless then (if flags.unicode then s.caseless else s.asciiCaseless) else s
  if negated then folded.negate else folded

/-- Reads a name up to a closing brace. -/
def nameInBraces (name : List Char) : Nat → Reader (List Char)
  | 0 => throw .badEscape
  | n + 1 => do
    let c ← must .badEscape
    if c = '\x7d' then
      skip 1
      return name.reverse
    else
      advance
      nameInBraces (c :: name) n

/-- The set that a property query names. An inequality negates it. -/
def propertySet? (query : List Char) : Option (CharSet × Bool) :=
  let (before, after) := query.span fun c => c != ':' && c != '='
  match before.reverse, after with
  | '!' :: property, '=' :: value =>
    (CharSet.valued? property.reverse value).map (·, true)
  | property, _ :: value => (CharSet.valued? property.reverse value).map (·, false)
  | _, [] => (CharSet.named? query).map (·, false)

/-- Reads the name of a property and gives its set. -/
def propertyEscape (negated : Bool) : Reader Atom := do
  advance
  let c ← must .badEscape
  let query ←
    if c = '\x7b' then
      advance
      nameInBraces [] ((← get).rest.length + 1)
    else if c = '\\' then throw .badEscape
    else
      advance
      pure [c]
  let flags := (← get).flags
  if !flags.unicode then throw .notUtf8
  match propertySet? query with
  | some (s, unequal) => return .set (foldAndNegate flags (negated != unequal) s)
  | none => throw .unknownProperty

/-- Whether a set, read as one of single bytes, goes beyond ASCII. -/
def exceedsAscii (s : CharSet) : Bool :=
  (List.range 0x80).any fun i => s.contains (0x80 + i)

/-- The set of one of the letters for digits, white space and word characters. -/
def letterSet (flags : Flags) (letter : Char) : CharSet :=
  let plain := letter.toLower
  if flags.unicode then
    (if plain = 'd' then CharSet.digit else if plain = 's' then CharSet.blank else CharSet.word)
  else
    (if plain = 'd' then CharSet.asciiDigit
      else if plain = 's' then CharSet.asciiBlank else CharSet.asciiWord)

/-- Reads the name of a special word boundary, if a brace with such a name follows. -/
def specialBoundary? (ascii : Bool) : Reader (Option Assertion) := do
  let start ← get
  advance
  let c ← must .badRepetition
  if !(c.isAlpha || c = '-') then
    set start
    return none
  let name := (← get).rest.takeWhile fun c => c.isAlpha || c == '-'
  skip name.length
  skipSpace
  if (← peek) != some '\x7d' then throw .badEscape
  skip 1
  match String.ofList name with
  | "start" => return some (.wordStart ascii)
  | "end" => return some (.wordEnd ascii)
  | "start-half" => return some (.beforeWordStart ascii)
  | "end-half" => return some (.afterWordEnd ascii)
  | _ => throw .badEscape

/-- Reads what follows a backslash. -/
def escape : Reader Atom := do
  skip 1
  let c ← must .badEscape
  let flags := (← get).flags
  let ascii := !flags.unicode
  if c.isDigit then throw .backReference
  else if c = 'x' then hexEscape 2
  else if c = 'u' then hexEscape 4
  else if c = 'U' then hexEscape 8
  else if c = 'p' then propertyEscape false
  else if c = 'P' then propertyEscape true
  else
    skip 1
    match c with
    | 'd' | 's' | 'w' => return .set (letterSet flags c)
    | 'D' | 'S' | 'W' =>
      if ascii then throw .notUtf8 else return .set (letterSet flags c).negate
    | 'a' => return .char '\x07' false
    | 'f' => return .char '\x0C' false
    | 't' => return .char '\t' false
    | 'n' => return .char '\n' false
    | 'r' => return .char '\r' false
    | 'v' => return .char '\x0B' false
    | 'A' => return .assertion .textStart
    | 'z' => return .assertion .textEnd
    | 'B' => return .assertion (.notWordBoundary ascii)
    | '<' => return .assertion (.wordStart ascii)
    | '>' => return .assertion (.wordEnd ascii)
    | 'b' =>
      if (← peek) = some '\x7b' then
        return .assertion ((← specialBoundary? ascii).getD (.wordBoundary ascii))
      else return .assertion (.wordBoundary ascii)
    | _ => if standsForItself c then return .char c false else throw .badEscape

/-! ## Classes -/

/-- The named classes of ASCII characters. -/
def asciiClass? (name : List Char) : Option CharSet :=
  match String.ofList name with
  | "alnum" => some (.union .asciiLetter .asciiDigit)
  | "alpha" => some .asciiLetter
  | "ascii" => some (.range 0 0x7F)
  | "blank" => some (.ofChars ['\t', ' '])
  | "cntrl" => some (.codes [⟨0, 0x1F, 1⟩, ⟨0x7F, 0x7F, 1⟩])
  | "digit" => some .asciiDigit
  | "graph" => some (.range 0x21 0x7E)
  | "lower" => some (.range 0x61 0x7A)
  | "print" => some (.range 0x20 0x7E)
  | "punct" =>
    some (.codes [⟨0x21, 0x2F, 1⟩, ⟨0x3A, 0x40, 1⟩, ⟨0x5B, 0x60, 1⟩, ⟨0x7B, 0x7E, 1⟩])
  | "space" => some .asciiBlank
  | "upper" => some (.range 0x41 0x5A)
  | "word" => some .asciiWord
  | "xdigit" => some (.codes [⟨0x30, 0x39, 1⟩, ⟨0x41, 0x46, 1⟩, ⟨0x61, 0x66, 1⟩])
  | _ => none

/-- Reads a named class such as `[:alpha:]` if there is one; else nothing is passed over. -/
def asciiClass : Reader (Option CharSet) := do
  let s ← get
  match s.rest with
  | '[' :: ':' :: more =>
    let (negated, more) := match more with
      | '^' :: more => (true, more)
      | _ => (false, more)
    let name := more.takeWhile (· != ':')
    match more.drop name.length, asciiClass? name with
    | ':' :: ']' :: rest, some cls =>
      set { s with rest := rest }
      return some (foldAndNegate s.flags negated cls)
    | _, _ => return none
  | _ => return none

/-- The operations between the parts of a class. -/
inductive SetOperation where
  | intersection
  | difference
  | symmetricDifference

/-- How deep a whole is nested whose parts are nested so deep. A single part stands for the
whole and adds no level. -/
def nesting : List Nat → Nat
  | [] => 0
  | [depth] => depth
  | depths => 1 + depths.foldl max 0

/-- A part of a class: the set so far, and how deep each of its items is nested. -/
structure ClassPart where
  set : CharSet
  depths : List Nat

namespace ClassPart

/-- The part without items. -/
def empty : ClassPart := ⟨.none, []⟩

/-- Adds an item. -/
def add (s : ClassPart) (item : CharSet) (depth : Nat) : ClassPart :=
  ⟨s.set.union item, depth :: s.depths⟩

end ClassPart

/-- Applies the operation that is waiting for its right side, if there is one. Both sides are
closed under case first if the flags ask for it. -/
def applyWaiting (flags : Flags) (waiting : Option (SetOperation × ClassPart))
    (s : ClassPart) : ClassPart :=
  match waiting with
  | none => s
  | some (operation, left) =>
    let l := foldAndNegate flags false left.set
    let r := foldAndNegate flags false s.set
    let set := match operation with
      | .intersection => l.inter r
      | .difference => l.diff r
      | .symmetricDifference => l.symDiff r
    ⟨set, [1 + max (nesting left.depths) (nesting s.depths)]⟩

/-- The number under which a literal enters a class. Without Unicode only ASCII characters and
bytes have one. -/
def literalCode (flags : Flags) (c : Char) (byte : Bool) : Except PatternError Nat :=
  if flags.unicode || byte || c.toNat < 0x80 then .ok c.toNat else .error .notUtf8

/-- Reads one item of a class that is a character or an escape. -/
def classAtom : Reader Atom := do
  let c ← must .unclosedClass
  if c = '\\' then escape
  else
    skip 1
    return .char c false

/-- The next character behind the one that stands next, insignificant space apart. -/
def peekBehind : Reader (Option Char) := do
  let s ← get
  let behind := s.rest.tail
  return (if s.flags.verbose then dropIgnored false behind else behind).head?

/-- Reads a character, an escape or a range of a class. -/
def classRange : Reader CharSet := do
  let flags := (← get).flags
  let first ← classAtom
  skipSpace
  let c ← must .unclosedClass
  let behind ← peekBehind
  if c ≠ '-' || behind = some ']' || behind = some '-' then
    match first with
    | .char c byte =>
      let n ← literalCode flags c byte
      return .range n n
    | .set s => return s
    | .assertion _ => throw .badClassItem
  else
    advance
    let _ ← must .unclosedClass
    match first, ← classAtom with
    | .char a aByte, .char b bByte =>
      if b < a then throw .badClassRange
      return .range (← literalCode flags a aByte) (← literalCode flags b bByte)
    | _, _ => throw .badClassRange

/-- Reads the hyphens that stand for themselves at the front of a class. -/
def leadingHyphens (s : ClassPart) : Nat → Reader ClassPart
  | 0 => return s
  | n + 1 => do
    if (← must .unclosedClass) = '-' then
      advance
      leadingHyphens (s.add (.single '-') 0) n
    else return s

mutual

/-- Reads a class whose opening bracket stands next. Gives its set and how deep it is nested. -/
def readClass : Nat → Reader (CharSet × Nat)
  | 0 => throw .tooDeep
  | fuel + 1 => do
    advance
    let flags := (← get).flags
    let negated := (← must .unclosedClass) = '^'
    if negated then advance
    let hyphens ← leadingHyphens .empty ((← get).rest.length + 1)
    let start ←
      if hyphens.depths.isEmpty && (← must .unclosedClass) = ']' then
        advance
        pure (ClassPart.empty.add (.single ']') 0)
      else pure hyphens
    let _ ← must .unclosedClass
    let items ← readClassItems fuel none start
    let s := foldAndNegate flags negated items.set
    if !flags.unicode && exceedsAscii s then throw .notUtf8
    return (s, 1 + nesting items.depths)

/-- Reads the items of a class up to its closing bracket. An operation that waits for its right
side is applied when the next one comes or the class ends. -/
def readClassItems : Nat → Option (SetOperation × ClassPart) → ClassPart → Reader ClassPart
  | 0, _, _ => throw .tooDeep
  | fuel + 1, waiting, s => do
    skipSpace
    let flags := (← get).flags
    let c ← must .unclosedClass
    if c = '[' then
      match ← asciiClass with
      | some cls => readClassItems fuel waiting (s.add cls 0)
      | none =>
        let (cls, depth) ← readClass fuel
        readClassItems fuel waiting (s.add cls depth)
    else if c = ']' then
      skip 1
      return applyWaiting flags waiting s
    else if ← accept "&&" then
      readClassItems fuel (some (.intersection, applyWaiting flags waiting s)) .empty
    else if ← accept "--" then
      readClassItems fuel (some (.difference, applyWaiting flags waiting s)) .empty
    else if ← accept "~~" then
      readClassItems fuel (some (.symmetricDifference, applyWaiting flags waiting s)) .empty
    else readClassItems fuel waiting (s.add (← classRange) 0)

end

/-! ## Groups and repetitions -/

/-- A pattern and how deep it is nested. -/
structure Nested where
  pattern : Pattern
  depth : Nat

/-- An item of a sequence: a pattern, or a change of flags, which nothing can repeat. -/
inductive Item where
  | pattern (p : Nested)
  | flags

namespace Item

/-- An item that is not nested. -/
def flat (p : Pattern) : Item := pattern ⟨p, 0⟩

/-- The pattern of an item. -/
def toPattern : Item → Pattern
  | pattern p => p.pattern
  | flags => .empty

/-- How deep an item is nested. -/
def depth : Item → Nat
  | pattern p => p.depth
  | flags => 0

end Item

/-- Turns one flag on or off. -/
def setFlag (flags : Flags) (on : Bool) (c : Char) : Option Flags :=
  match c with
  | 'i' => some { flags with caseless := on }
  | 'm' => some { flags with multiLine := on }
  | 's' => some { flags with dotAll := on }
  | 'U' => some flags
  | 'u' => some { flags with unicode := on }
  | 'R' => some { flags with crlf := on }
  | 'x' => some { flags with verbose := on }
  | _ => none

/-- Reads flags up to the colon or parenthesis that ends them, which stays. Gives the new flags
and what was read. -/
def readFlags (flags : Flags) (seen : List Char) : Nat → Reader (Flags × List Char)
  | 0 => throw .badFlags
  | n + 1 => do
    let c ← must .badFlags
    if c = ':' || c = ')' then
      if seen.head? = some '-' then throw .badFlags
      return (flags, seen)
    else if seen.contains c then throw .badFlags
    else
      skip 1
      if c = '-' then readFlags flags ('-' :: seen) n
      else match setFlag flags (!seen.contains '-') c with
        | some flags => readFlags flags (c :: seen) n
        | none => throw .badFlags

/-- Whether a character may stand in a group name. -/
def isNameChar (first : Bool) (c : Char) : Bool :=
  c = '_' || CharSet.alphabetic.contains c.toNat ||
    (!first && (c = '.' || c = '[' || c = ']' ||
      (CharSet.ofTables [Text.categoryNd, Text.categoryNl, Text.categoryNo]).contains c.toNat))

/-- Reads a group name and the angle bracket behind it. No two groups share a name. -/
def groupName : Reader Unit := do
  let s ← get
  let name := s.rest.takeWhile (· != '>')
  let valid := match name with
    | [] => false
    | c :: more => isNameChar true c && more.all (isNameChar false)
  if !valid || s.rest.length = name.length || s.names.contains name then throw .badGroupName
  set { s with rest := s.rest.drop (name.length + 1), names := name :: s.names }

/-- Reads a decimal count of a repetition; nothing if there is no digit. Space around the
digits does not count. -/
def readCount : Reader (Option Nat) := do
  modify fun s => { s with rest := s.rest.dropWhile Text.isBlank }
  let rec digits (value : Nat) (seen : Bool) : Nat → Reader (Option Nat)
    | 0 => return none
    | n + 1 => do
      match ← peek with
      | some c =>
        if c.isDigit then
          advance
          digits (min (value * 10 + (c.toNat - '0'.toNat)) (Nat.pow 2 32)) true n
        else return if seen then some value else none
      | none => return if seen then some value else none
  let count ← digits 0 false ((← get).rest.length + 1)
  modify fun s => { s with rest := s.rest.dropWhile Text.isBlank }
  skipSpace
  match count with
  | some value => if Nat.pow 2 32 ≤ value then throw .badRepetition else return some value
  | none => return none

/-- Passes over the question mark that makes a repetition lazy. Lazy or not, the same texts
match. -/
def skipLazy : Reader Unit := do
  let _ ← accept "?"

/-- Reads a counted repetition whose opening brace stands next. -/
def readBounds : Reader (Nat × Option Nat) := do
  advance
  let _ ← must .badRepetition
  let low? ← readCount
  let c ← must .badRepetition
  let bounds ←
    if c = ',' then do
      advance
      let c ← must .badRepetition
      let some low := low? | throw .badRepetition
      if c = '\x7d' then pure (low, none)
      else
        let some high := ← readCount | throw .badRepetition
        pure (low, some high)
    else
      let some low := low? | throw .badRepetition
      pure (low, some low)
  if (← peek) ≠ some '\x7d' then throw .badRepetition
  advance
  skipLazy
  match bounds with
  | (low, some high) => if high < low then throw .badRepetition else return bounds
  | _ => return bounds

/-- The last item, which must be a pattern, repeated; the items are given last first. -/
def repeatLast (items : List Item) (low : Nat) (high? : Option Nat) :
    Except PatternError (List Item) :=
  match items with
  | .pattern p :: more => .ok (.pattern ⟨p.pattern.inRow low high?, p.depth + 1⟩ :: more)
  | _ => .error .missingOperand

/-- The pattern of a literal. -/
def literalPattern (flags : Flags) (c : Char) (byte : Bool) : Except PatternError Pattern :=
  if !flags.unicode && byte && 0x80 ≤ c.toNat then .error .notUtf8
  else .ok (.one (foldAndNegate flags false (.single c)))

/-- The pattern of a dot. -/
def dotPattern (flags : Flags) : Except PatternError Pattern :=
  if !flags.unicode then .error .notUtf8
  else if flags.dotAll then .ok (.one .anything)
  else if flags.crlf then .ok (.one (CharSet.negate (.ofChars ['\r', '\n'])))
  else .ok (.one (CharSet.negate (.single '\n')))

/-- The pattern of what stands for one character or place. -/
def atomPattern (flags : Flags) : Atom → Except PatternError Pattern
  | .char c byte => literalPattern flags c byte
  | .set s => .ok (.one s)
  | .assertion a => .ok (.place a)

/-- The sequence of items, given last first. -/
def sequenceOf (items : List Item) : Nested :=
  ⟨sequence (items.reverse.map Item.toPattern), nesting (items.map Item.depth)⟩

/-- The choice between branches, given last first. -/
def choiceOf (branches : List Nested) : Nested :=
  let depth := nesting (branches.map Nested.depth)
  match branches.reverse with
  | [] => ⟨.empty, depth⟩
  | first :: rest => ⟨choice first.pattern (rest.map Nested.pattern), depth⟩

mutual

/-- Reads a group whose opening parenthesis stands next, or a change of flags. -/
def readGroup : Nat → Reader Item
  | 0 => throw .tooDeep
  | fuel + 1 => do
    skip 1
    skipSpace
    if (← looksAt "?=") || (← looksAt "?!") || (← looksAt "?<=") || (← looksAt "?<!") then
      throw .lookAround
    let outer := (← get).flags
    if (← accept "?P<") || (← accept "?<") then groupName
    else if ← accept "?" then
      let _ ← must .unclosedGroup
      let (flags, seen) ← readFlags outer [] ((← get).rest.length + 1)
      modify fun s => { s with flags := flags }
      if ← accept ")" then
        if seen.isEmpty then throw .missingOperand
        return .flags
      skip 1
    let p ← readItems fuel [] []
    if (← peek) ≠ some ')' then throw .unclosedGroup
    skip 1
    modify fun s => { s with flags := outer }
    return .pattern ⟨p.pattern, p.depth + 1⟩

/-- Reads items up to the end of the group they belong to. The branches before the last bar and
the items behind it are given last first. -/
def readItems : Nat → List Nested → List Item → Reader Nested
  | 0, _, _ => throw .tooDeep
  | fuel + 1, branches, items => do
    skipSpace
    let flags := (← get).flags
    match ← peek with
    | none | some ')' => return choiceOf (sequenceOf items :: branches)
    | some c =>
      match c with
      | '(' => readItems fuel branches ((← readGroup fuel) :: items)
      | '|' =>
        skip 1
        readItems fuel (sequenceOf items :: branches) []
      | '[' =>
        let (s, depth) ← readClass fuel
        readItems fuel branches (.pattern ⟨.one s, depth⟩ :: items)
      | '?' =>
        skip 1
        let items ← repeatLast items 0 (some 1)
        skipLazy
        readItems fuel branches items
      | '*' =>
        skip 1
        let items ← repeatLast items 0 none
        skipLazy
        readItems fuel branches items
      | '+' =>
        skip 1
        let items ← repeatLast items 1 none
        skipLazy
        readItems fuel branches items
      | '\x7b' =>
        let _ ← repeatLast items 0 none
        let (low, high?) ← readBounds
        readItems fuel branches (← repeatLast items low high?)
      | '\\' =>
        readItems fuel branches (.flat (← atomPattern flags (← escape)) :: items)
      | '.' =>
        skip 1
        readItems fuel branches (.flat (← dotPattern flags) :: items)
      | '^' =>
        skip 1
        let a := if flags.multiLine then .lineStart flags.crlf else .textStart
        readItems fuel branches (.flat (.place a) :: items)
      | '$' =>
        skip 1
        let a := if flags.multiLine then .lineEnd flags.crlf else .textEnd
        readItems fuel branches (.flat (.place a) :: items)
      | c =>
        skip 1
        readItems fuel branches (.flat (← literalPattern flags c false) :: items)

end

/-- Reads a whole pattern. -/
def readAll (fuel : Nat) : Reader Nested := do
  let p ← readItems fuel [] []
  if (← peek).isSome then throw .unopenedGroup
  return p

/-- A pattern that is nested deeper is refused. -/
def nestingLimit : Nat := 250

/-- The pattern that a text writes down. -/
def parse (text : String) : Except PatternError Pattern := do
  let (p, _) ← (readAll (2 * text.length + 2)).run ⟨text.toList, {}, []⟩
  if nestingLimit < p.depth then .error .tooDeep
  if costLimit < p.pattern.cost then .error .tooLarge
  return p.pattern

end Pattern

end LicenseAudit
