import LicenseAudit.Header.License
import LicenseAudit.Header.Style

/-!
# Header registries

A registry knows which files take a header and what the header is.

* `HeaderSource` — what the audit asks of a registry, and all that it asks;
* `Registry` — the built-in file types with overrides by file name and by extension;
* `Registry.style?` — a file name override comes first, then an extension override, then the
  built-in style; of two overrides for one key the later one counts.
-/

namespace LicenseAudit

/-- Which paths take a header, and the header of each. -/
structure HeaderSource where
  supports : Path → Bool
  headerFor? : Path → Option String

/-- Lower-case file names that never take a header. -/
def excludedNames : List String :=
  ["pnpm-lock.yaml", "package-lock.json", "yarn.lock", "cargo.lock"]

/-- Endings of lower-case file names that never take a header. -/
def excludedSuffixes : List String := [".d.ts"]

/-- A license text and the comment styles that differ from the built-in ones. Overrides stand
under lower-case keys, the latest one first. -/
structure Registry where
  licenseText : String
  extensionStyles : List (String × CommentStyle)
  fileNameStyles : List (String × CommentStyle)

namespace Registry

/-- The built-in file types and license text. -/
def builtin : Registry := ⟨defaultLicenseText, [], []⟩

/-- Replaces the license text. -/
def withLicenseText (r : Registry) (text : String) : Registry :=
  { r with licenseText := text }

/-- Sets the style of an extension, given without its dot. -/
def withExtensionStyle (r : Registry) (extension : String) (style : CommentStyle) : Registry :=
  { r with extensionStyles := (Text.lowercaseString extension, style) :: r.extensionStyles }

/-- Sets the style of a file name. -/
def withFileNameStyle (r : Registry) (name : String) (style : CommentStyle) : Registry :=
  { r with fileNameStyles := (Text.lowercaseString name, style) :: r.fileNameStyles }

/-- Whether a lower-case file name never takes a header. -/
def isExcludedName (name : String) : Bool :=
  name ∈ excludedNames ||
    excludedSuffixes.any fun suffix => suffix.toList.isSuffixOf name.toList

/-- Whether the file never takes a header, whatever the overrides say. -/
def isExcluded (p : Path) : Bool :=
  isExcludedName p.lowerName

/-- The style of a file, exclusions apart. -/
def style? (r : Registry) (p : Path) : Option CommentStyle :=
  match r.fileNameStyles.lookup p.lowerName with
  | some style => some style
  | none =>
    if p.lowerExtension.isEmpty then builtinStyle? p
    else (r.extensionStyles.lookup p.lowerExtension).or (builtinStyle? p)

/-- Whether a file takes a header. -/
def supports (r : Registry) (p : Path) : Bool :=
  !isExcluded p && (r.style? p).isSome

/-- The header of a file: the license text in the style of the file. -/
def headerFor? (r : Registry) (p : Path) : Option String :=
  if isExcluded p then none else (r.style? p).map fun style => style.render r.licenseText

/-- The registry as the audit sees it. -/
def source (r : Registry) : HeaderSource := ⟨r.supports, r.headerFor?⟩

end Registry

end LicenseAudit
