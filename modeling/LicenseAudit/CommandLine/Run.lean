import LicenseAudit.CommandLine.Session

/-!
# Runs

* `Session.lint` — checks the notice document and the tree;
* `Session.fix` — repairs the notice document, one file, or everything;
* `runCommand` — a whole run: its output and its exit status.

The exit status is 0 when there is nothing to complain about, 1 when something was found or
could not be repaired, and 2 when the run could not be carried out.
-/

namespace LicenseAudit

/-- How a command ended: whether it found nothing to complain about, or why it broke off. -/
abbrev Ending := Except RunFailure Bool

/-- The output of a run and how it ended. -/
structure Transcript where
  lines : List Line
  ending : Ending

namespace Transcript

/-- The exit status. -/
def exitStatus (t : Transcript) : UInt8 :=
  match t.ending with
  | .ok true => 0
  | .ok false => 1
  | .error _ => 2

/-- All lines, with the line about the failure at the end if there was one. -/
def allLines (t : Transcript) : List Line :=
  match t.ending with
  | .ok _ => t.lines
  | .error e => t.lines ++ [e.line]

end Transcript

/-- What a part of a run printed and the report after it. -/
structure Progress where
  lines : List Line
  report : RunReport

namespace Progress

/-- Before the first line. -/
def start (s : Session) (mode : RunMode) : Progress :=
  ⟨[], .start mode s.surroundings.generatedAt⟩

/-- Adds lines and another report. -/
def step (p : Progress) (lines : List Line) (report : RunReport) : Progress :=
  ⟨p.lines ++ lines, report⟩

end Progress

namespace Session

/-- Ends a command: prints how long it took, writes the report and says what comes of it. -/
def conclude (s : Session) (progress : Progress) (lastLines : Bool → List Line) :
    Program Transcript := do
  let time ← Program.elapsed
  let report := progress.report.finish time
  let lines := progress.lines ++ s.presentation.cost report.mode.text time
  match ← s.writeReport report with
  | .error e => return ⟨lines, .error e⟩
  | .ok () => return ⟨lines ++ lastLines report.isSuccess, .ok report.isSuccess⟩

/-! ## Linting -/

/-- Checks the notice document. -/
def lintNotice (s : Session) (p : Progress) : Program Progress := do
  match ← s.notice.lint s.year with
  | .ok () =>
    return p.step (s.presentation.detail ("Notice year is current: " ++ toString s.year))
      (p.report.recordNotice .current none)
  | .error e =>
    return p.step (s.presentation.noticeError e) (p.report.recordNotice .failed (some e.message))

/-- The lines about the files that a check found. -/
def checkLines (s : Session) (o : CheckOutcome) : List Line :=
  Presentation.missingFiles s.root o.missing ++ s.presentation.failures s.root o.failures

/-- The last line of a check. -/
def verdictLines (s : Session) (success : Bool) : List Line :=
  if success then
    s.presentation.remark (s.presentation.success ++ " All files have license headers.")
  else s.presentation.notable
    "Run `asflint fix all` to add missing headers and update the notice year."

/-- Checks the notice document and the tree. -/
def lint (s : Session) : Program Transcript := do
  let p ← s.lintNotice (.start s .lint)
  match ← s.engine.check s.root with
  | .error e => return ⟨p.lines, .error (.check s.root e)⟩
  | .ok outcome =>
    s.conclude (p.step (s.checkLines outcome) (p.report.recordCheck outcome s.root))
      s.verdictLines

/-! ## Fixing -/

/-- The target that stands for everything. -/
def everything : String := "all"

/-- Repairs the notice document. -/
def fixNotice (s : Session) (p : Progress) : Program Progress := do
  match ← s.notice.fix s.tag s.year with
  | .ok fixed =>
    return p.step (s.presentation.noticeFixed s.root s.notice.path fixed)
      (p.report.recordNotice .fixed none)
  | .error e =>
    return p.step (s.presentation.noticeError e) (p.report.recordNotice .failed (some e.message))

/-- The lines about the files that a repair touched. -/
def fixLines (s : Session) (o : FixAllOutcome) : List Line :=
  s.presentation.addedFiles s.root o.fixed ++ s.presentation.failures s.root o.failures

/-- Repairs one file. -/
def fixSingle (s : Session) (p : Progress) (file : Path) : Program Progress := do
  let shown := file.shownFrom s.root
  match ← s.engine.fixFile file with
  | .ok .added =>
    return p.step (s.presentation.addedFiles s.root [file]) (p.report.recordFixed file s.root)
  | .ok .alreadyCompliant =>
    return p.step (s.presentation.detail (shown ++ " already has a license header")) p.report
  | .ok .unsupported =>
    return p.step (s.presentation.notable
      (shown ++ " is not a file type that takes a license header; skipped")) p.report
  | .error e =>
    return p.step (s.presentation.failures s.root [e])
      (p.report.recordFailure file s.root e.message)

/-- Repairs the notice document and the tree. -/
def fixEverything (s : Session) : Program Transcript := do
  let p ← s.fixNotice (.start s .fix)
  match ← s.engine.fixAll s.root with
  | .error e => return ⟨p.lines, .error (.repair s.root e)⟩
  | .ok outcome =>
    s.conclude (p.step (s.fixLines outcome) (p.report.recordFixAll outcome s.root)) fun _ => []

/-- Repairs the notice document or one file, whichever the target means. -/
def fixTarget (s : Session) (target : Path) : Program Transcript := do
  let file ← s.resolveTarget target
  let named ← s.isNotice target
  let p ← if named || (← s.isNotice file) then s.fixNotice (.start s .fix)
    else s.fixSingle (.start s .fix) file
  s.conclude p fun _ => []

/-- Repairs what the target names. -/
def fix (s : Session) (target : String) : Program Transcript :=
  if target = everything then s.fixEverything else s.fixTarget ⟨target⟩

/-- Carries out a command. -/
def carryOut (s : Session) : Command → Program Transcript
  | .lint => s.lint
  | .fix target => s.fix target

end Session

/-- A whole run. -/
def runCommand (a : Arguments) (around : Surroundings) : Program Transcript := do
  match ← Session.begin a.options around with
  | .error e => return ⟨[], .error e⟩
  | .ok s => s.carryOut a.command

/-! ## Requests without a run -/

/-- The name and number of this version. -/
def versionText : String := "asflint 0.1.0"

/-- What help shows. -/
def helpLines : List String :=
  [ versionText,
    "Apache license header and NOTICE year gate for source trees",
    "",
    "Usage: asflint [OPTIONS] <COMMAND>",
    "",
    "Commands:",
    "  lint          Report files missing the license header and an outdated notice year",
    "  fix <TARGET>  Add missing license headers and update the notice year",
    "  help          Show this text",
    "",
    "Options:",
    "      --root <DIR>            Root directory of the tree to audit [default: .]",
    "      --notice <FILE>         Notice document (default: NOTICE in the root directory)",
    "      --config <FILE>         Config file (default: .asflint.toml in the root directory)",
    "      --no-config             Ignore config file even if present",
    "      --year <YEAR>           Year the notice range must end with (default: the current year)",
    "  -j, --jobs <N>              Number of concurrent file workers (default: number of CPUs)",
    "  -v, --verbose...            Increase verbosity",
    "  -q, --quiet                 Suppress all output except findings and errors",
    "      --colors [<WHEN>]       Control when to use colored output (auto, never, always)",
    "      --report-json <OUTPUT>  Write a JSON report of the run to the specified path",
    "  -h, --help                  Show this text",
    "  -V, --version               Show the version" ]

/-- What a run prints and its exit status, from the words of its command line. -/
def runWords (words : List String) (around : Surroundings) : Program (List Line × UInt8) := do
  match readCommandLine words with
  | .error e =>
    return ([.err ("error: " ++ e.message), .err "For more information, try '--help'."], 2)
  | .ok .version => return ([.out versionText], 0)
  | .ok .help => return (helpLines.map .out, 0)
  | .ok (.run arguments) =>
    let t ← runCommand arguments around
    return (t.allLines, t.exitStatus)

end LicenseAudit
