import LicenseAudit.Text.Blank
import LicenseAudit.Text.Lines
import LicenseAudit.Text.Lowercase
import LicenseAudit.Path.Basic

/-!
# Comment styles

How a license text becomes a comment, and which style a kind of file takes.

* `CommentStyle.render` — the text between the top and bottom markers, every line behind the
  middle marker;
* `builtinStyle?` — the style of the file types that are known without configuration.
-/

namespace LicenseAudit

/-- The markers of a comment: one line above, one before each line, one line below. A style
of line comments has empty `top` and `bottom`. -/
structure CommentStyle where
  top : String
  middle : String
  bottom : String
deriving DecidableEq

namespace CommentStyle

/-- A style of line comments. -/
def line (marker : String) : CommentStyle := ⟨"", marker, ""⟩

/-- The block comments of the C family. -/
def slashStar : CommentStyle := ⟨"/*", " * ", " */"⟩

/-- The line comments of shells and property files. -/
def hash : CommentStyle := line "# "

/-- The comments of markup. -/
def markup : CommentStyle := ⟨"<!--", " * ", "-->"⟩

/-- One line of the license text as a line of the comment. Before an empty line the marker
loses its white space at the end. -/
def commentLine (style : CommentStyle) (line : List Char) : List Char :=
  if line.isEmpty then Text.trimEnd style.middle.toList else style.middle.toList ++ line

/-- An outer marker takes a line of its own, and none when it is empty. -/
def outerLine (marker : String) : List (List Char) :=
  if marker.isEmpty then [] else [marker.toList]

/-- The lines of the comment that holds the text. -/
def commentLines (style : CommentStyle) (text : List Char) : List (List Char) :=
  outerLine style.top ++ (Text.lines text).map style.commentLine ++ outerLine style.bottom

/-- The comment that holds the text. It does not end with a line break of its own. -/
def render (style : CommentStyle) (text : String) : String :=
  String.ofList (Text.joinLines (style.commentLines text.toList))

end CommentStyle

/-- The file name of a path in lowercase, empty when the path has none. -/
def Path.lowerName (p : Path) : String :=
  Text.lowercaseString (p.fileName?.getD "")

/-- The extension of a path in lowercase, empty when the path has none. -/
def Path.lowerExtension (p : Path) : String :=
  Text.lowercaseString (p.extension?.getD "")

/-- File names that take `#` comments although they have no telling extension. -/
def hashNames : List String :=
  ["makefile", "dockerfile", ".npmignore", ".gitignore", ".dockerignore", ".prettierignore",
    ".eslintignore", ".editorconfig"]

/-- Extensions that take `/* */` comments. -/
def slashStarExtensions : List String :=
  ["go", "java", "js", "mjs", "cjs", "jsx", "ts", "tsx", "c", "h", "cc", "cpp", "hpp", "rs",
    "scala", "kt", "kts", "groovy", "swift", "proto", "css", "less", "scss"]

/-- Extensions that take `#` comments. -/
def hashExtensions : List String :=
  ["sh", "bash", "zsh", "py", "rb", "yml", "yaml", "properties", "toml", "conf"]

/-- Extensions that take markup comments. -/
def markupExtensions : List String :=
  ["xml", "html", "htm", "vue", "xsd", "wsdl"]

/-- The style of a file name and an extension, both in lowercase. The name counts first. -/
def styleOfName? (name extension : String) : Option CommentStyle :=
  if name ∈ hashNames then some .hash
  else if extension ∈ slashStarExtensions then some .slashStar
  else if extension ∈ hashExtensions then some .hash
  else if extension ∈ markupExtensions then some .markup
  else none

/-- The style of the file types that are known without configuration. -/
def builtinStyle? (p : Path) : Option CommentStyle :=
  styleOfName? p.lowerName p.lowerExtension

end LicenseAudit
