import LicenseAudit.FileSystem.Error
import LicenseAudit.Path.Basic
import LicenseAudit.Pattern.Reader
import LicenseAudit.Toml.Value

/-!
# Errors of a configuration

Why a configuration is refused, and the text shown for it. A fault of a single setting names its
key.
-/

namespace LicenseAudit

/-- What is wrong with a comment style. -/
inductive StyleFault where
  | emptyMiddle
  | leadingDot
deriving DecidableEq

/-- What is wrong with a comment style, as a text. -/
def StyleFault.message : StyleFault → String
  | emptyMiddle => "middle field cannot be empty"
  | leadingDot => "extension should not include leading dot"

/-- What is wrong with a single setting. -/
inductive SettingFault where
  | noJobs
  | emptyMarker
  /-- The marker does not stand in the built-in license text, and no other text is named. -/
  | markerNotInText (marker : String)
  | notFourDigits (year : Int)
  /-- The license text that a file holds lacks the marker. -/
  | textWithoutMarker (marker : String)
deriving DecidableEq

namespace SettingFault

/-- The setting at fault. -/
def key : SettingFault → String
  | noJobs => "jobs"
  | emptyMarker | markerNotInText _ => "marker"
  | notFourDigits _ => "notice.start-year"
  | textWithoutMarker _ => "header-file"

/-- What is wrong with a setting, as a text. -/
def message : SettingFault → String
  | noJobs => "must be at least 1"
  | emptyMarker => "cannot be empty"
  | markerNotInText marker =>
    "'" ++ marker ++ "' does not occur in the built-in license text; set header-file as well"
  | notFourDigits year => toString year ++ " is not a four-digit year"
  | textWithoutMarker marker => "header text must contain the marker '" ++ marker ++ "'"

end SettingFault

/-- Why a configuration is refused. -/
inductive ConfigError where
  | read (path : Path) (cause : IoError)
  | parse (path : Path) (cause : TomlError)
  | commentStyle (key : String) (fault : StyleFault)
  | pattern (cause : PatternError)
  | setting (fault : SettingFault)
  | headerRead (path : Path) (cause : IoError)
deriving DecidableEq

namespace ConfigError

/-- The text shown for the error. -/
def message : ConfigError → String
  | read path cause =>
    "Failed to read config file '" ++ path.text ++ "': " ++ cause.message
  | parse path cause =>
    "Failed to parse config file '" ++ path.text ++ "': " ++ cause.message
  | commentStyle key fault =>
    "Invalid comment style for '" ++ key ++ "': " ++ fault.message
  | pattern cause => "Invalid exclusion pattern: " ++ cause.message
  | setting fault => "Invalid setting '" ++ fault.key ++ "': " ++ fault.message
  | headerRead path cause =>
    "Failed to read header file '" ++ path.text ++ "': " ++ cause.message

/-- What lies behind the error, as a text of its own. -/
def cause? : ConfigError → Option String
  | read _ cause => some cause.message
  | parse _ cause => some cause.message
  | pattern cause => some cause.message
  | headerRead _ cause => some cause.message
  | commentStyle _ _ => none
  | setting _ => none

end ConfigError

end LicenseAudit
