import LicenseAudit.Toml.Value

/-!
# A document that grows

The statements of a TOML document name tables and put values into them. The rules about what
may be named twice need to know how each table came to be:

* `Origin`, `Node` — tables with their origin, lists of tables, and finished values;
* `Entries.addValue` — a value under a dotted key. The tables on the way must all have come
  from dotted keys;
* `Entries.openTable`, `Entries.openElement` — the two kinds of table header;
* `Document` — the entries so far and the table that the last header opened.
-/

namespace LicenseAudit.Toml

/-- How a table came to be. -/
inductive Origin where
  /-- A header names it. -/
  | header
  /-- It is on the way to a table that a header names. -/
  | implied
  /-- It is on the way to a value under a dotted key. -/
  | dotted
deriving DecidableEq

/-- What stands under a key. -/
inductive Node where
  | value (v : Value)
  | table (origin : Origin) (entries : List (String × Node))
  | tables (earlier : List (List (String × Node))) (latest : List (String × Node))

/-- The entries of a table in the order in which they were added. -/
abbrev Entries := List (String × Node)

mutual

/-- The value that a node stands for. -/
def Node.toValue : Node → Value
  | .value v => v
  | .table _ entries => .table (entryValues entries)
  | .tables earlier latest => .array (tableValues earlier ++ [.table (entryValues latest)])

/-- The values of entries. -/
def entryValues : List (String × Node) → List (String × Value)
  | [] => []
  | (key, node) :: rest => (key, node.toValue) :: entryValues rest

/-- The values of a list of tables. -/
def tableValues : List (List (String × Node)) → List Value
  | [] => []
  | entries :: rest => .table (entryValues entries) :: tableValues rest

end

namespace Entries

/-- Puts another node under a key that is in use. -/
def replace (es : Entries) (key : String) (node : Node) : Entries :=
  es.map fun e => if e.1 = key then (key, node) else e

/-- Changes the table at the end of a path. Tables on the way that do not exist are created;
`dotted` says that the path belongs to a dotted key. The change is told the origin of its
table. -/
def within (dotted : Bool) (change : Origin → Entries → Except TomlError Entries)
    (origin : Origin) : List String → Entries → Except TomlError Entries
  | [], es => change origin es
  | key :: path, es =>
    match es.lookup key with
    | none => do
      let origin := if dotted then .dotted else .implied
      return es ++ [(key, .table origin (← within dotted change origin path []))]
    | some (.table origin inner) => do
      if dotted && origin = .header then .error (.duplicateKey key)
      return replace es key (.table origin (← within dotted change origin path inner))
    | some (.tables earlier latest) => do
      if dotted then .error (.notExtensible key)
      return replace es key (.tables earlier (← within dotted change .header path latest))
    | some (.value _) => .error (.notExtensible key)

/-- Adds a value under the key at the end of a path. -/
def addValue (path : List String) (key : String) (v : Value) (es : Entries) :
    Except TomlError Entries :=
  within true (fun origin inner =>
      if !path.isEmpty && origin ≠ .dotted then .error (.duplicateKey key)
      else if (inner.lookup key).isSome then .error (.duplicateKey key)
      else .ok (inner ++ [(key, .value v)]))
    .header path es

/-- Opens the table that a header names. Of a table that exists nothing may be known but tables
inside it. -/
def openTable (path : List String) (key : String) (es : Entries) : Except TomlError Entries :=
  within false (fun _ inner =>
      match inner.lookup key with
      | none => .ok (inner ++ [(key, .table .header [])])
      | some (.table .implied known) => .ok (replace inner key (.table .header known))
      | some _ => .error (.duplicateKey key))
    .header path es

/-- Opens the next table of the list that a header names. -/
def openElement (path : List String) (key : String) (es : Entries) : Except TomlError Entries :=
  within false (fun _ inner =>
      match inner.lookup key with
      | none => .ok (inner ++ [(key, .tables [] [])])
      | some (.tables earlier latest) => .ok (replace inner key (.tables (earlier ++ [latest]) []))
      | some _ => .error (.duplicateKey key))
    .header path es

end Entries

/-- A document so far: all entries, and the path of the table that takes the next value. -/
structure Document where
  entries : Entries
  inForce : List String

namespace Document

/-- The document without any statement. -/
def empty : Document := ⟨[], []⟩

/-- Splits the last key off a path. -/
def splitLast (path : List String) : Option (List String × String) :=
  path.getLast?.map (path.dropLast, ·)

/-- Adds a value to the open table. -/
def addValue (d : Document) (path : List String) (v : Value) : Except TomlError Document :=
  match splitLast path with
  | none => .error .missingKey
  | some (way, key) => do
    let entries ← Entries.within false (fun _ => Entries.addValue way key v) .header d.inForce
      d.entries
    return { d with entries }

/-- Opens a table, or the next table of a list. -/
def openTable (d : Document) (path : List String) (element : Bool) :
    Except TomlError Document :=
  match splitLast path with
  | none => .error .missingKey
  | some (way, key) => do
    let entries ←
      if element then d.entries.openElement way key else d.entries.openTable way key
    return ⟨entries, path⟩

end Document

end LicenseAudit.Toml
