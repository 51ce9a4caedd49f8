import LicenseAudit.Path.Basic
import LicenseAudit.Pattern.Reader

/-!
# Name patterns and exclusions

Files and directories are left out by name. Only the last component of a path counts, so that
the place of a tree never leaves anything out.

* `NamePatterns` — patterns of which any one may match anywhere in the name, with the label
  under which a match is reported;
* `Exclusions` — the directory and file names that are left out of every audit: the built-in
  ones and those that the configuration adds.
-/

namespace LicenseAudit

/-- Patterns for names, with the label that names them in reports. -/
structure NamePatterns where
  label : String
  patterns : List Pattern

namespace NamePatterns

/-- Whether a name matches one of the patterns. -/
def matchesName (ps : NamePatterns) (name : String) : Bool :=
  ps.patterns.any fun p => p.foundIn name.toList

/-- Whether the last component of a path is a name that matches. -/
def matchesPath (ps : NamePatterns) (p : Path) : Bool :=
  match p.fileName? with
  | some name => ps.matchesName name
  | none => false

/-- Patterns that match the names in which one of the texts stands. -/
def ofLiterals (label : String) (literals : List String) : NamePatterns :=
  ⟨label, literals.map fun l => Pattern.literal l.toList⟩

/-- Adds patterns that are written as regular expressions. Together they must stay below the
limit for one pattern. -/
def add (ps : NamePatterns) (texts : List String) : Except PatternError NamePatterns := do
  let more ← texts.mapM Pattern.parse
  let cost := (ps.patterns ++ more).foldl (fun total p => total + p.cost) 0
  if Pattern.costLimit < cost then .error .tooLarge
  return { ps with patterns := ps.patterns ++ more }

/-- Patterns that are written as regular expressions. -/
def parse (label : String) (texts : List String) : Except PatternError NamePatterns :=
  add ⟨label, []⟩ texts

end NamePatterns

/-- Names of directories of dependencies, builds and tools; each may be a part of the name. -/
def defaultDirectoryLiterals : List String :=
  ["node_modules", "vendor", "lib", "target", "__license__", "__notice__", "husky",
    ".vitepress"]

/-- Names of files that are left out; each may be a part of the name. -/
def defaultFileLiterals : List String := [".eslintrc.js", "pnpm-lock.yaml"]

/-- The pattern that a name matches when it is exactly the given one. -/
def Pattern.exactly (name : String) : Pattern :=
  .seq (.place .textStart) (.seq (.literal name.toList) (.place .textEnd))

/-- The name of the directory that holds version control data. -/
def versionControlName : String := ".git"

/-- The names that are left out of an audit. -/
structure Exclusions where
  directories : NamePatterns
  files : NamePatterns

namespace Exclusions

/-- The directory names that are left out without configuration. -/
def builtinDirectories : NamePatterns :=
  ⟨"directory", (NamePatterns.ofLiterals "directory" defaultDirectoryLiterals).patterns ++
    [Pattern.exactly versionControlName]⟩

/-- The file names that are left out without configuration. -/
def builtinFiles : NamePatterns := .ofLiterals "file" defaultFileLiterals

/-- What is left out without configuration. -/
def builtin : Exclusions := ⟨builtinDirectories, builtinFiles⟩

/-- The built-in exclusions and further patterns for directory and for file names. -/
def parse (directories files : List String) : Except PatternError Exclusions := do
  return ⟨← builtinDirectories.add directories, ← builtinFiles.add files⟩

/-- Whether a directory is left out, and all that it holds. -/
def excludesDirectory (x : Exclusions) (p : Path) : Bool := x.directories.matchesPath p

/-- Whether a file is left out by its name. -/
def excludesFile (x : Exclusions) (p : Path) : Bool := x.files.matchesPath p

end Exclusions

end LicenseAudit
