import LicenseAudit.CommandLine.Console
import LicenseAudit.Config.Load
import LicenseAudit.Config.Settings
import LicenseAudit.Report.Basic

/-!
# Sessions

Everything that a command needs, worked out once from the options, the configuration and the
surroundings of the run.

* `Surroundings` — what a run is told besides its command line: the clock, the environment and
  the terminal;
* `RunFailure` — why a run cannot be carried out; each failure is shown with what lies
  behind it;
* `Session`, `Session.begin` — the session, or the reason why there is none;
* `Session.resolveTarget`, `Session.isNotice` — what the target of a repair means.
-/

namespace LicenseAudit

/-- What a run is told besides its command line. -/
structure Surroundings where
  configVariable? : Option Path
  currentYear : Int
  generatedAt : String
  processors : Nat
  tag : Nat
  outIsTerminal : Bool
  errIsTerminal : Bool

/-- Why a run cannot be carried out. -/
inductive RunFailure where
  | rootNotFound (root : Path)
  | configuration (cause : ConfigError)
  /-- The configuration was loaded, but no settings follow from it. -/
  | settings (cause : ConfigError)
  | check (root : Path) (cause : AuditError)
  | repair (root : Path) (cause : AuditError)
  | report (path : Path) (cause : IoError)
deriving DecidableEq

/-- The error and what lies behind it, outermost first. -/
def ConfigError.chain (e : ConfigError) : List String := e.message :: e.cause?.toList

/-- The error and what lies behind it, outermost first. -/
def AuditError.chain : AuditError → List String
  | walk e => [e.message, e.detail, e.cause.message]
  | worker => [worker.message]

namespace RunFailure

/-- The failure and what lies behind it, outermost first. -/
def chain : RunFailure → List String
  | rootNotFound root => ["Root directory not found: " ++ root.text]
  | configuration cause => cause.chain
  | settings cause => "Invalid configuration" :: cause.chain
  | check root cause => ("License check failed for " ++ root.text) :: cause.chain
  | repair root cause => ("License fix failed for " ++ root.text) :: cause.chain
  | report path cause => ["Failed to write report to " ++ path.text, cause.message]

/-- The line about the failure. -/
def line (e : RunFailure) : Line := .err ("ERROR: " ++ String.intercalate ": " e.chain)

end RunFailure

/-- Everything that a command needs. -/
structure Session where
  settings : Settings
  registry : Registry
  year : Int
  reportPath? : Option Path
  presentation : Presentation
  surroundings : Surroundings

/-- Whether a stream is coloured. -/
def ColorMode.isUsed (mode : ColorMode) (isTerminal : Bool) : Bool :=
  match mode with
  | auto => isTerminal
  | never => false
  | always => true

namespace Options

/-- The root directory asked for. -/
def root (o : Options) : Path := o.root?.getD ⟨"."⟩

/-- How the options want a run to be presented. -/
def presentation (o : Options) (around : Surroundings) : Presentation where
  volume := o.volume
  colorOut := (o.colors?.getD .auto).isUsed around.outIsTerminal
  colorErr := (o.colors?.getD .auto).isUsed around.errIsTerminal

/-- Where the configuration may come from. -/
def configSource (o : Options) (around : Surroundings) : ConfigSource where
  explicit? := o.config?
  environment? := around.configVariable?
  root := o.root
  disabled := o.noConfig

/-- The settings under these options, which override the configuration. -/
def overrideSettings (o : Options) (s : Settings) : Settings :=
  { s with
    noticePath := o.notice?.getD s.noticePath
    jobs? := firstOf o.jobs? s.jobs? }

end Options

namespace Session

/-- The session under options and a configuration. -/
def ofConfig (o : Options) (around : Surroundings) (c : Option Config) :
    Except RunFailure Session :=
  match Settings.ofConfig o.root c with
  | .error e => .error (.settings e)
  | .ok s => .ok
    { settings := o.overrideSettings s
      registry := Registry.ofConfig c
      year := o.year?.getD around.currentYear
      reportPath? := o.reportPath?
      presentation := o.presentation around
      surroundings := around }

/-- Begins a session. The root must be a directory before anything else is looked at. -/
def begin (o : Options) (around : Surroundings) : Program (Except RunFailure Session) := do
  if !(← Program.directoryExists o.root) then return .error (.rootNotFound o.root)
  match ← (o.configSource around).load with
  | .error e => return .error (.configuration e)
  | .ok c => return ofConfig o around c

/-- The root directory. -/
def root (s : Session) : Path := s.settings.root

/-- The notice document. -/
def notice (s : Session) : Notice := s.settings.notice

/-- The number that tells the temporary files of this run. -/
def tag (s : Session) : Nat := s.surroundings.tag

/-- The audit of this session. -/
def engine (s : Session) : Engine :=
  s.settings.engine s.registry s.surroundings.processors s.tag

/-- The file that a target means: a relative path that does not exist as it stands is looked for
under the root. -/
def resolveTarget (s : Session) (target : Path) : Program Path := do
  if target.isAbsolute then return target
  if ← Program.pathExists target then return target
  if ← Program.pathExists (s.root.join target) then return s.root.join target
  return target

/-- Whether two paths lead to the same file. Where one of them leads nowhere, they must be the
same path. -/
def sameFile (p q : Path) : Program Bool := do
  match ← Program.canonical p, ← Program.canonical q with
  | .ok a, .ok b => return a.same b
  | _, _ => return p.same q

/-- Whether a path means the notice document. Its bare name always does. -/
def isNotice (s : Session) (p : Path) : Program Bool := do
  if p.components.length = 1 && p.fileName? == s.notice.path.fileName? then return true
  sameFile p s.notice.path

/-- Writes the report of a run, if one was asked for. -/
def writeReport (s : Session) (r : RunReport) : Program (Except RunFailure Unit) := do
  match s.reportPath? with
  | none => return .ok ()
  | some path =>
    match ← Program.write path (Text.encode r.toJson.render.toList) with
    | .ok () => return .ok ()
    | .error e => return .error (.report path e)

end Session

end LicenseAudit
