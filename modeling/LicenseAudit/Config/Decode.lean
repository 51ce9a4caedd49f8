import LicenseAudit.Config.Basic
import LicenseAudit.Toml.Reader

/-!
# Reading a configuration

From the text of a configuration file to a draft, and on to the configuration in force.

* `Draft.ofEntries` — reads the settings off the top table of a document; keys that mean
  nothing are left alone;
* `Config.parse` — the whole way from the text.

A table with fixed fields may also be written as an array of its fields in order, and a date in
its place counts as a table without any of them.
-/

namespace LicenseAudit

namespace Toml

/-- The wanted field if it is present, else nothing. -/
def optional {α : Type} (read : Value → Except TomlError α) (fields : List (String × Value))
    (name : String) : Except TomlError (Option α) :=
  match fields.lookup name with
  | none => .ok none
  | some v => some <$> read v

/-- The wanted field if it is present, else a default. -/
def withDefault {α : Type} (read : Value → Except TomlError α) (default : α)
    (fields : List (String × Value)) (name : String) : Except TomlError α := do
  return (← optional read fields name).getD default

/-- The wanted field, which must be present. -/
def required {α : Type} (read : Value → Except TomlError α) (fields : List (String × Value))
    (name : String) : Except TomlError α := do
  match ← optional read fields name with
  | some a => return a
  | none => throw (.missingField name)

namespace Value

/-- Reads a string. -/
def asString : Value → Except TomlError String
  | string s => .ok s
  | _ => .error (.wrongType "a string")

/-- Reads a path. -/
def asPath (v : Value) : Except TomlError Path := Path.mk <$> v.asString

/-- Reads a number that is not negative and fits into 64 bits. -/
def asNatural : Value → Except TomlError Nat
  | integer n =>
    if 0 ≤ n && n < Int.pow 2 64 then .ok n.toNat else .error (.wrongType "a natural number")
  | _ => .error (.wrongType "a natural number")

/-- Reads a number that fits into 32 bits with a sign. -/
def asSmallInteger : Value → Except TomlError Int
  | integer n =>
    if -Int.pow 2 31 ≤ n && n < Int.pow 2 31 then .ok n
    else .error (.wrongType "a number of 32 bits")
  | _ => .error (.wrongType "a number of 32 bits")

/-- Reads an array of strings. -/
def asStrings : Value → Except TomlError (List String)
  | array items => items.mapM asString
  | _ => .error (.wrongType "an array of strings")

/-- Reads a table with the given fields. What stands under other keys has to be representable
and is left alone. -/
def asFields (names : List String) : Value → Except TomlError (List (String × Value))
  | table entries =>
    if entries.all fun e => names.contains e.1 || e.2.isRepresentable then .ok entries
    else .error .numberTooLarge
  | array items => .ok (names.zip items)
  | moment _ => .ok []
  | _ => .error (.wrongType "a table")

/-- Reads a table under free keys. -/
def asMap {α : Type} (read : Value → Except TomlError α) :
    Value → Except TomlError (List (String × α))
  | table entries => entries.mapM fun e => do return (e.1, ← read e.2)
  | _ => .error (.wrongType "a table")

/-- Reads a comment style. -/
def asCommentStyle (v : Value) : Except TomlError CommentStyle := do
  let fields ← v.asFields ["top", "middle", "bottom"]
  return {
    top := ← withDefault asString "" fields "top"
    middle := ← required asString fields "middle"
    bottom := ← withDefault asString "" fields "bottom" }

end Value

end Toml

/-- The keys of the top table that mean something. -/
def Draft.keys : List String :=
  ["jobs", "marker", "header-file", "notice", "exclude", "comment-styles", "filenames"]

open Toml in
/-- Reads the settings off the top table of a document. -/
def Draft.ofEntries (entries : List (String × Value)) : Except TomlError Draft := do
  let top ← (Value.table entries).asFields keys
  let notice ← withDefault (Value.asFields ["file", "start-year"]) [] top "notice"
  let exclude ← withDefault (Value.asFields ["dirs", "files"]) [] top "exclude"
  return {
    jobs? := ← optional Value.asNatural top "jobs"
    marker? := ← optional Value.asString top "marker"
    headerFile? := ← optional Value.asPath top "header-file"
    noticeFile? := ← optional Value.asPath notice "file"
    startYear? := ← optional Value.asSmallInteger notice "start-year"
    excludedDirectories := ← withDefault Value.asStrings [] exclude "dirs"
    excludedFiles := ← withDefault Value.asStrings [] exclude "files"
    extensionStyles := ← withDefault (Value.asMap Value.asCommentStyle) [] top "comment-styles"
    fileNameStyles := ← withDefault (Value.asMap Value.asCommentStyle) [] top "filenames" }

/-- The draft that a text writes down. -/
def Draft.parse (text : String) : Except TomlError Draft := do
  Draft.ofEntries (← Toml.read text)

/-- The configuration that a text stands for; errors name the path that it came from. -/
def Config.parse (text : String) (path : Path) : Except ConfigError Config :=
  match Draft.parse text with
  | .error e => .error (.parse path e)
  | .ok draft => draft.accept

end LicenseAudit
