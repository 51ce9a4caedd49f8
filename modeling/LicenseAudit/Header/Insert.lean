import LicenseAudit.Text.Blank
import LicenseAudit.Text.Search
import LicenseAudit.Text.Utf8

/-!
# Putting a header into a file

A header goes to the front of a file, followed by an empty line. Only an XML declaration
stays before it, because markup must begin with its declaration.

* `Declaration.split?` — a leading XML declaration and what follows it;
* `insertHeader` — the content with the header in place;
* `carries` — whether a content holds the marker.

Contents are byte strings of any encoding; nothing here needs them to be UTF-8.
-/

namespace LicenseAudit

/-- Whether the content holds the marker as a contiguous byte string. -/
def carries (content : Bytes) (marker : String) : Bool :=
  Text.occursIn (Text.encode marker.toList) content

namespace Declaration

/-- The UTF-8 form of the byte order mark. -/
def byteOrderMark : Bytes := Text.encode ['\uFEFF']

/-- The bytes that open an XML declaration. -/
def opening : Bytes := Text.encode "<?xml".toList

/-- How many bytes the white space character at the front takes; zero if there is none. -/
def blankSize (content : Bytes) : Nat :=
  ([1, 2, 3].find? fun size =>
    match Text.decode? (content.take size) with
    | some [c] => Text.isBlank c
    | _ => false).getD 0

/-- The content behind its leading white space. -/
def dropBlank (content : Bytes) : Bytes :=
  if _h : 0 < blankSize content ∧ 0 < content.length then
    dropBlank (content.drop (blankSize content))
  else content
termination_by content.length
decreasing_by simp only [List.length_drop]; omega

/-- The content behind a byte order mark, if it begins with one. -/
def dropMark (content : Bytes) : Bytes :=
  if byteOrderMark.isPrefixOf content then content.drop byteOrderMark.length else content

/-- What follows an XML declaration that may stand behind a byte order mark and white space.
The declaration ends at its first `>`, which a `?` must precede. -/
def rest? (content : Bytes) : Option Bytes :=
  let inner := dropBlank (dropMark content)
  if opening.isPrefixOf inner then
    let body := (inner.drop opening.length).takeWhile (· != 0x3E)
    match (inner.drop opening.length).dropWhile (· != 0x3E) with
    | _ :: after => if body.getLast? = some 0x3F then some after else none
    | [] => none
  else none

/-- A content split behind its XML declaration, if it begins with one. -/
def split? (content : Bytes) : Option (Bytes × Bytes) :=
  (rest? content).map fun after => (content.take (content.length - after.length), after)

end Declaration

/-- A content without the one line break at its front, if there is one. -/
def dropLineBreak : Bytes → Bytes
  | 0x0D :: 0x0A :: rest => rest
  | 0x0A :: rest => rest
  | content => content

/-- An empty line after what stands before it. -/
def gap : Bytes := [0x0A, 0x0A]

/-- The content with the header as a block of its own: behind a leading XML declaration, whose
line break the block replaces, else at the front. -/
def insertHeader (content header : Bytes) : Bytes :=
  match Declaration.split? content with
  | some (declaration, after) => declaration ++ gap ++ header ++ gap ++ dropLineBreak after
  | none => header ++ gap ++ content

end LicenseAudit
