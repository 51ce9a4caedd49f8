import LicenseAudit.Config.Decode
import LicenseAudit.Program.Basic

/-!
# Finding and loading a configuration

* `Config.load` — reads a configuration file and the license text that it names;
* `ConfigSource` — where a run may take its configuration from;
* `ConfigSource.discover?` — the file in force: the one asked for, else the one that the
  environment names, else the one in the root directory;
* `ConfigSource.load` — the configuration in force, if there is one.
-/

namespace LicenseAudit

/-- The name of the configuration file in the root directory. -/
def configFileName : String := ".asflint.toml"

/-- The path of the license text. A relative one starts at the directory of the configuration
file. -/
def Config.headerPath (path headerFile : Path) : Path :=
  match path.parent? with
  | some dir => if headerFile.isAbsolute then headerFile else dir.join headerFile
  | none => headerFile

/-- Reads the license text that a configuration names. -/
def Config.loadHeader (c : Config) (path : Path) : Program (Except ConfigError Config) := do
  match c.headerFile? with
  | none => return .ok c
  | some headerFile =>
    let headerPath := headerPath path headerFile
    match ← Program.readText headerPath with
    | .error e => return .error (.headerRead headerPath e)
    | .ok text => return c.withHeaderText text

/-- Reads a configuration file and the license text that it names. -/
def Config.load (path : Path) : Program (Except ConfigError Config) := do
  match ← Program.readText path with
  | .error e => return .error (.read path e)
  | .ok text =>
    match Config.parse text path with
    | .error e => return .error e
    | .ok c => c.loadHeader path

/-- Where a run may take its configuration from: a file that was asked for, the file that the
environment names, and the root directory; or nowhere. -/
structure ConfigSource where
  explicit? : Option Path
  environment? : Option Path
  root : Path
  disabled : Bool

namespace ConfigSource

/-- The configuration file of the root directory. -/
def rootFile (s : ConfigSource) : Path := s.root.join ⟨configFileName⟩

/-- The first of some files that exists. -/
def firstExisting? : List Path → Program (Option Path)
  | [] => return none
  | p :: rest => do
    if ← Program.pathExists p then return some p else firstExisting? rest

/-- The configuration file in force. A file that was asked for stands for itself; otherwise the
first candidate that exists counts. -/
def discover? (s : ConfigSource) : Program (Option Path) :=
  match s.explicit? with
  | some p => firstExisting? [p]
  | none => firstExisting? (s.environment?.toList ++ [s.rootFile])

/-- Loads the configuration in force, if there is one. A file that was asked for must exist. -/
def load (s : ConfigSource) : Program (Except ConfigError (Option Config)) := do
  if s.disabled then return .ok none
  match ← s.discover? with
  | some p =>
    match ← Config.load p with
    | .ok c => return .ok (some c)
    | .error e => return .error e
  | none =>
    match s.explicit? with
    | some p => return .error (.read p (.other "config file not found"))
    | none => return .ok none

end ConfigSource

end LicenseAudit
