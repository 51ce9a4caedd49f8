import LicenseAudit.Pattern.CharSet

/-!
# Patterns

A pattern describes a set of texts. It is searched for anywhere in a name, so all that counts
is where a match can begin and end.

* `Pattern` — characters, assertions about the place, sequence, choice and repetition;
* `Pattern.ends` — the places where a match can end, given the places where it may begin;
* `Pattern.foundIn` — whether the pattern matches some part of the text.

Places are counted from the start of the text: place `i` is before the character number `i`.
-/

namespace LicenseAudit

/-- A statement about one place of a text. Word boundaries ask for word characters of Unicode
or, with `ascii`, of ASCII only. -/
inductive Assertion where
  | textStart
  | textEnd
  | lineStart (crlf : Bool)
  | lineEnd (crlf : Bool)
  | wordBoundary (ascii : Bool)
  | notWordBoundary (ascii : Bool)
  | wordStart (ascii : Bool)
  | wordEnd (ascii : Bool)
  | beforeWordStart (ascii : Bool)
  | afterWordEnd (ascii : Bool)

/-- A pattern. -/
inductive Pattern where
  | empty
  | one (s : CharSet)
  | place (a : Assertion)
  | seq (p q : Pattern)
  | either (p q : Pattern)
  /-- At least `low` and, if there is a bound, at most `high?` matches in a row. -/
  | repeated (p : Pattern) (low : Nat) (high? : Option Nat)

namespace Assertion

/-- Whether the character at a place, if there is one, belongs to words. -/
def wordAt (ascii : Bool) (c? : Option Char) : Bool :=
  match c? with
  | some c => (if ascii then CharSet.asciiWord else CharSet.word).contains c.toNat
  | none => false

/-- Whether the assertion holds between two neighbouring characters; at an end of the text
one of them is missing. -/
def holds (before? after? : Option Char) : Assertion → Bool
  | textStart => before?.isNone
  | textEnd => after?.isNone
  | lineStart false => before?.isNone || before? == some '\n'
  | lineEnd false => after?.isNone || after? == some '\n'
  | lineStart true =>
    before?.isNone || before? == some '\n' || (before? == some '\r' && after? != some '\n')
  | lineEnd true =>
    after?.isNone || after? == some '\r' || (after? == some '\n' && before? != some '\r')
  | wordBoundary ascii => wordAt ascii before? != wordAt ascii after?
  | notWordBoundary ascii => wordAt ascii before? == wordAt ascii after?
  | wordStart ascii => !wordAt ascii before? && wordAt ascii after?
  | wordEnd ascii => wordAt ascii before? && !wordAt ascii after?
  | beforeWordStart ascii => !wordAt ascii before?
  | afterWordEnd ascii => !wordAt ascii after?

/-- Whether the assertion holds at a place of the text. -/
def holdsAt (text : Array Char) (i : Nat) (a : Assertion) : Bool :=
  a.holds (if i = 0 then none else text[i - 1]?) text[i]?

end Assertion

namespace Pattern

/-- The places of either list, none twice. -/
def merge (xs ys : List Nat) : List Nat :=
  xs ++ ys.filter fun y => !xs.contains y

/-- Applies a step a fixed number of times; when it changes nothing any more, the rest of the
times are left out. -/
def iterate (step : List Nat → List Nat) : Nat → List Nat → List Nat
  | 0, places => places
  | n + 1, places =>
    let next := step places
    if next = places then places else iterate step n next

/-- Adds what up to so many further steps reach, until nothing new is reached. -/
def grow (step : List Nat → List Nat) : Nat → List Nat → List Nat
  | 0, places => places
  | n + 1, places =>
    let more := merge places (step places)
    if more.length = places.length then places else grow step n more

/-- The places where a match can end when it begins at one of the given places. -/
def ends (text : Array Char) : Pattern → List Nat → List Nat
  | empty, places => places
  | one s, places => places.filterMap fun i =>
      match text[i]? with
      | some c => if s.contains c.toNat then some (i + 1) else none
      | none => none
  | place a, places => places.filter fun i => a.holdsAt text i
  | seq p q, places => q.ends text (p.ends text places)
  | either p q, places => merge (p.ends text places) (q.ends text places)
  | repeated p low high?, places =>
      let further := match high? with
        | some high => high - low
        | none => text.size + 1
      grow (p.ends text) further (iterate (p.ends text) low places)

/-- Whether the pattern matches some part of the text. -/
def foundIn (p : Pattern) (text : List Char) : Bool :=
  !(p.ends text.toArray (List.range (text.length + 1))).isEmpty

/-- Whether the pattern takes no characters: each of its matches is empty. -/
def takesNothing : Pattern → Bool
  | empty | place _ => true
  | one _ => false
  | seq p q | either p q => p.takesNothing && q.takesNothing
  | repeated p _ high? => high? = some 0 || p.takesNothing

/-- A pattern in a row, between two bounds. What takes no characters holds any number of times
where it holds once, so that one time stands for all. -/
def inRow (p : Pattern) (low : Nat) (high? : Option Nat) : Pattern :=
  if p.takesNothing then repeated p (min low 1) (some (min (high?.getD 1) 1))
  else repeated p low high?

/-- The pattern that matches exactly the given text. -/
def literal : List Char → Pattern
  | [] => empty
  | c :: rest => seq (one (.single c)) (literal rest)

/-- A sequence of patterns. -/
def sequence (ps : List Pattern) : Pattern :=
  ps.foldr seq empty

/-- A choice between the first pattern and further ones. -/
def choice (p : Pattern) : List Pattern → Pattern
  | [] => p
  | q :: rest => either p (choice q rest)

end Pattern

end LicenseAudit
