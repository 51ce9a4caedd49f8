import LicenseAudit.Text.Lines

/-!
# Paths

A path is a text, kept exactly as it was written, together with a reading of that text as a
list of components. Asking for a component never looks at a file system. A disk can have names that
are no texts, because their bytes are not UTF-8: there are no paths to these here. To show such a
name is to lose part of it (`Text.lossy`).

* `Path.components` — repeated separators and inner `.` components do not count, a leading
  `.` does, and `..` always does;
* `Path.fileName?`, `Path.parent?`, `Path.extension?` — the usual parts;
* `Path.join` — the path of something below a directory;
* `Path.key` — the order of paths: component by component, names by their code points. Two
  paths with equal keys are the same path, however they are spelled (`Path.same`).
-/

namespace LicenseAudit

/-- A path, as it was written. Its bytes are the UTF-8 form of a text. -/
structure Path where
  text : String
deriving DecidableEq

/-- One component of a path. -/
inductive Component where
  | root
  | here
  | up
  | name (n : String)
deriving DecidableEq

namespace Component

/-- The text of a component inside a path. -/
def text : Component → String
  | root => "/"
  | here => "."
  | up => ".."
  | name n => n

/-- The place of a component in the order of paths: the root first, then `.`, then `..`, then
names by their code points. -/
def key : Component → List Nat
  | root => [0]
  | here => [1]
  | up => [2]
  | name n => 3 :: n.toList.map Char.toNat

/-- Reads one piece between separators, which is the first one of its path or a later one. A
first piece that is empty stands before the separator of an absolute path. -/
def ofPiece? (first : Bool) (piece : List Char) : Option Component :=
  if piece = [] then (if first then some root else none)
  else if piece = ['.'] then (if first then some here else none)
  else if piece = ['.', '.'] then some up
  else some (name (String.ofList piece))

end Component

namespace Path

/-- Whether the path starts at the root of the file system. -/
def isAbsolute (p : Path) : Bool :=
  p.text.toList.head? == some '/'

/-- The pieces of the path between its separators; the empty path has none. -/
def pieces (p : Path) : List (List Char) :=
  if p.text.isEmpty then [] else Text.pieces '/' p.text.toList

/-- The components of the path, each with the number of pieces up to and including it. -/
def spans (p : Path) : List (Component × Nat) :=
  p.pieces.zipIdx.filterMap fun (piece, i) =>
    (Component.ofPiece? (i == 0) piece).map (·, i + 1)

/-- The components of the path. -/
def components (p : Path) : List Component :=
  p.spans.map (·.1)

/-- The order key of the path. -/
def key (p : Path) : List (List Nat) :=
  p.components.map Component.key

/-- Whether two paths have the same components. -/
def same (p q : Path) : Bool :=
  p.components == q.components

/-- The text of the first pieces of the path; the piece before a leading separator stands for
the root. -/
def upTo (p : Path) (count : Nat) : Path :=
  let kept := p.pieces.take count
  if kept = [[]] then ⟨"/"⟩ else ⟨String.ofList (List.intercalate ['/'] kept)⟩

/-- The last component, if it is a name. -/
def fileName? (p : Path) : Option String :=
  match p.components.getLast? with
  | some (.name n) => some n
  | _ => none

/-- The path without its last component. The root and the empty path have no parent. -/
def parent? (p : Path) : Option Path :=
  match p.spans.reverse with
  | [] => none
  | (.root, _) :: _ => none
  | [_] => some ⟨""⟩
  | _ :: (_, count) :: _ => some (p.upTo count)

/-- The path of `q` as seen from the directory `p`: an absolute `q` stands for itself, and any
other is written behind `p` and one separator. -/
def join (p q : Path) : Path :=
  if q.isAbsolute || p.text.isEmpty then q
  else if p.text.toList.getLast? == some '/' then ⟨p.text ++ q.text⟩
  else ⟨p.text ++ "/" ++ q.text⟩

/-- The path of the entry with the given name in the same directory. -/
def withFileName (p : Path) (name : String) : Path :=
  let dir := if p.fileName?.isSome then p.parent?.getD ⟨""⟩ else p
  dir.join ⟨name⟩

/-- What stands behind the last dot of a file name, if there is a dot and something stands
before it. -/
def extensionOf? (name : List Char) : Option (List Char) :=
  match (Text.pieces '.' name).reverse with
  | [] => none
  | [_] => none
  | [_, []] => none
  | last :: _ => some last

/-- The extension of the file name. -/
def extension? (p : Path) : Option String :=
  p.fileName?.bind fun n => (extensionOf? n.toList).map String.ofList

/-- The path with the given components. -/
def ofComponents (cs : List Component) : Path :=
  cs.foldl (fun p c => p.join ⟨c.text⟩) ⟨""⟩

end Path

/-- Puts a path into a list that is sorted by key. Of two spellings of one path the one already
there stays. -/
def Path.insertSorted (p : Path) : List Path → List Path
  | [] => [p]
  | q :: rest =>
    if p.key < q.key then p :: q :: rest
    else if p.key = q.key then q :: rest
    else q :: insertSorted p rest

/-- The different paths of a list, in the order of paths. -/
def Path.sortedSet (ps : List Path) : List Path :=
  ps.foldl (fun set p => p.insertSorted set) []

end LicenseAudit
