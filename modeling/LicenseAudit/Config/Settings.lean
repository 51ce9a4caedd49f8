import LicenseAudit.Audit.Engine
import LicenseAudit.Config.Basic
import LicenseAudit.Notice.Document

/-!
# Settings of a run

* `Settings` — everything that a run works with, without anything left open but the number of
  workers;
* `Settings.ofConfig` — the settings of a root directory under a configuration;
* `Registry.ofConfig` — the headers under a configuration.
-/

namespace LicenseAudit

/-- Everything that a run works with. Without a number of jobs there is one worker for each
processor. -/
structure Settings where
  root : Path
  noticePath : Path
  startYear : Int
  marker : String
  jobs? : Option Nat
  exclusions : Exclusions

/-- The name of the notice document in the root directory. -/
def defaultNoticeFile : Path := ⟨"NOTICE"⟩

/-- The first year of the range in the notice document. -/
def defaultStartYear : Int := 2018

namespace Settings

/-- The settings of a root directory without configuration. -/
def default (root : Path) : Settings where
  root := root
  noticePath := root.join defaultNoticeFile
  startYear := defaultStartYear
  marker := defaultMarker
  jobs? := none
  exclusions := .builtin

/-- The settings of a root directory. Only here the patterns of a configuration are read. -/
def ofConfig (root : Path) : Option Config → Except ConfigError Settings
  | none => .ok (default root)
  | some c =>
    match Exclusions.parse c.excludedDirectories c.excludedFiles with
    | .error e => .error (.pattern e)
    | .ok exclusions => .ok
      { root
        noticePath := root.join (c.noticeFile?.getD defaultNoticeFile)
        startYear := c.startYear?.getD defaultStartYear
        marker := c.marker
        jobs? := c.jobs?
        exclusions }

/-- The notice document. -/
def notice (s : Settings) : Notice := ⟨s.noticePath, s.startYear⟩

/-- The audit under these settings. -/
def engine (s : Settings) (registry : Registry) (processors tag : Nat) : Engine where
  headers := registry.source
  marker := s.marker
  jobs := s.jobs?.getD processors
  exclusions := s.exclusions
  tag := tag

end Settings

/-- The headers under a configuration. -/
def Registry.ofConfig : Option Config → Registry
  | none => .builtin
  | some c =>
    let registry := match c.headerText? with
      | some text => builtin.withLicenseText text
      | none => builtin
    let registry := c.extensionStyles.foldl (fun r e => r.withExtensionStyle e.1 e.2) registry
    c.fileNameStyles.foldl (fun r e => r.withFileNameStyle e.1 e.2) registry

end LicenseAudit
