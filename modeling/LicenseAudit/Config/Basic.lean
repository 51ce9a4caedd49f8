import LicenseAudit.Config.Error
import LicenseAudit.Header.License
import LicenseAudit.Header.Style
import LicenseAudit.Notice.YearRange
import LicenseAudit.Text.Search

/-!
# Configurations

What a project sets for its audits.

* `Draft` — a configuration as it is written down: the two style tables are lists of entries,
  under the keys as they were spelled;
* `Draft.fault?` — the first thing that is wrong with a draft;
* `Config` — a configuration in force, under lower-case keys, together with the license text if
  a file gives one;
* `Draft.accept` — from the one to the other;
* `Config.withHeaderText` — a license text is accepted only if it holds the marker.
-/

namespace LicenseAudit

/-- Comment styles under keys. -/
abbrev StyleTable := List (String × CommentStyle)

namespace StyleTable

/-- Sets the style of a key, whether it has one already or not. -/
def set (t : StyleTable) (key : String) (style : CommentStyle) : StyleTable :=
  t.filter (fun e => e.1 != key) ++ [(key, style)]

/-- The table under lower-case keys. Of two keys that differ by case only the later counts. -/
def lowered (t : StyleTable) : StyleTable :=
  t.foldl (fun lower e => set lower (Text.lowercaseString e.1) e.2) []

end StyleTable

/-- A configuration as it is written down. -/
structure Draft where
  jobs? : Option Nat
  marker? : Option String
  headerFile? : Option Path
  noticeFile? : Option Path
  startYear? : Option Int
  excludedDirectories : List String
  excludedFiles : List String
  extensionStyles : StyleTable
  fileNameStyles : StyleTable

namespace Draft

/-- What is wrong with an entry of the extension styles. -/
def extensionFault? (e : String × CommentStyle) : Option ConfigError :=
  if e.2.middle.isEmpty then some (.commentStyle e.1 .emptyMiddle)
  else if e.1.toList.head? = some '.' then some (.commentStyle e.1 .leadingDot)
  else none

/-- What is wrong with an entry of the file name styles. -/
def fileNameFault? (e : String × CommentStyle) : Option ConfigError :=
  if e.2.middle.isEmpty then some (.commentStyle e.1 .emptyMiddle) else none

/-- What is wrong with the number of jobs. -/
def jobsFault? (d : Draft) : Option SettingFault :=
  if d.jobs? = some 0 then some .noJobs else none

/-- What is wrong with the marker. Without a license text of its own a draft must keep to
markers that stand in the built-in text. -/
def markerFault? (d : Draft) : Option SettingFault :=
  match d.marker? with
  | none => none
  | some marker =>
    if marker.isEmpty then some .emptyMarker
    else if d.headerFile?.isNone && !Text.containsText defaultLicenseText marker then
      some (.markerNotInText marker)
    else none

/-- What is wrong with the first year of the notice. -/
def startYearFault? (d : Draft) : Option SettingFault :=
  match d.startYear? with
  | none => none
  | some year => if isFourDigitYear year then none else some (.notFourDigits year)

/-- The first thing that is wrong with a draft: in the extension styles, in the file name
styles, then in the single settings. -/
def fault? (d : Draft) : Option ConfigError :=
  (d.extensionStyles.findSome? extensionFault?)
    |>.or (d.fileNameStyles.findSome? fileNameFault?)
    |>.or (d.jobsFault?.map .setting)
    |>.or (d.markerFault?.map .setting)
    |>.or (d.startYearFault?.map .setting)

end Draft

/-- A configuration in force. The keys of its style tables are in lower case. -/
structure Config extends Draft where
  headerText? : Option String

/-- The configuration that a draft without faults stands for. -/
def Draft.accept (d : Draft) : Except ConfigError Config :=
  match d.fault? with
  | some e => .error e
  | none => .ok
    { d with
      extensionStyles := d.extensionStyles.lowered
      fileNameStyles := d.fileNameStyles.lowered
      headerText? := none }

namespace Config

/-- The marker in force. -/
def marker (c : Config) : String := c.marker?.getD defaultMarker

/-- The configuration with another license text, which must hold the marker. White space at its
end is not kept. -/
def withHeaderText (c : Config) (text : String) : Except ConfigError Config :=
  if Text.containsText text c.marker then
    .ok { c with headerText? := some (String.ofList (Text.trimEnd text.toList)) }
  else .error (.setting (.textWithoutMarker c.marker))

end Config

end LicenseAudit
