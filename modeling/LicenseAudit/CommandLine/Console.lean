import LicenseAudit.Audit.Outcome
import LicenseAudit.CommandLine.Arguments
import LicenseAudit.Notice.Document
import LicenseAudit.Path.Relative

/-!
# What a run prints

Findings go to standard output, a line each, and are printed even when quiet output is asked
for; errors go to standard error. Everything else gives way to quiet output. Diagnostics for
developers, which would stand among the errors, are left out.

* `Line` — a line on one of the two streams;
* `Presentation` — how much is printed and where colours are used;
* the remaining definitions are the lines for each kind of outcome.
-/

namespace LicenseAudit

/-- A line of output. -/
inductive Line where
  | out (text : String)
  | err (text : String)
deriving DecidableEq

/-- The text that lines put on standard output. -/
def Line.outText (lines : List Line) : String :=
  String.join (lines.map fun
    | out text => text ++ "\n"
    | err _ => "")

/-- The text that lines put on standard error. -/
def Line.errText (lines : List Line) : String :=
  String.join (lines.map fun
    | out _ => ""
    | err text => text ++ "\n")

/-- How much is printed. -/
inductive Volume where
  | quiet
  | normal
  | verbose
deriving DecidableEq

/-- How much is printed and which streams are coloured. -/
structure Presentation where
  volume : Volume
  colorOut : Bool
  colorErr : Bool
deriving DecidableEq

/-- The volume that options ask for. Across the two levels verbose output wins. -/
def Options.volume (o : Options) : Volume :=
  if 0 < o.verbosity then .verbose else if o.quiet then .quiet else .normal

/-- A change of the style of text: the codes that begin and end it. -/
structure TextStyle where
  start : Nat
  close : Nat

/-- The control sequence of a style code. -/
def styleCode (n : Nat) : String := "\x1B[" ++ toString n ++ "m"

namespace TextStyle

/-- Red text. -/
def red : TextStyle := ⟨31, 39⟩

/-- Green text. -/
def green : TextStyle := ⟨32, 39⟩

/-- Yellow text. -/
def yellow : TextStyle := ⟨33, 39⟩

/-- Faint text. -/
def dimmed : TextStyle := ⟨2, 0⟩

/-- A text in the style, if styles are used at all. -/
def apply (s : TextStyle) (used : Bool) (text : String) : String :=
  if used then styleCode s.start ++ text ++ styleCode s.close else text

end TextStyle

/-- Stands before good news. -/
def successMark : String := "✓"

/-- Stands before bad news. -/
def failureMark : String := "✗"

/-- Stands before a changed year. -/
def updateMark : String := "↻"

/-- How many fixed files are listed unless the output is verbose. -/
def fileListLimit : Nat := 20

namespace Presentation

/-- A line on standard output that quiet output leaves out. -/
def remark (p : Presentation) (text : String) : List Line :=
  if p.volume = .quiet then [] else [.out text]

/-- A line on standard error that only verbose output has. -/
def detail (p : Presentation) (text : String) : List Line :=
  if p.volume = .verbose then [.err text] else []

/-- A coloured remark. -/
def notable (p : Presentation) (text : String) : List Line :=
  p.remark (TextStyle.yellow.apply p.colorOut text)

/-- The mark of good news. -/
def success (p : Presentation) : String := TextStyle.green.apply p.colorOut successMark

/-- A line about something that failed. -/
def complaint (p : Presentation) (text : String) : Line :=
  .err (TextStyle.red.apply p.colorErr failureMark ++ " " ++ text)

/-- A line for every file without header. -/
def missingFiles (root : Path) (files : List Path) : List Line :=
  files.map fun file => .out (file.shownFrom root ++ " => missing Apache license header")

/-- A line for every file that failed. -/
def failures (p : Presentation) (root : Path) (errors : List FileError) : List Line :=
  errors.map fun e => p.complaint (e.path.shownFrom root ++ " => " ++ e.message)

/-- The line about a failed operation on the notice document. -/
def noticeError (p : Presentation) (e : NoticeError) : List Line := [p.complaint e.message]

/-- The line about a notice document that ends with the right year now. -/
def noticeFixed (p : Presentation) (root notice : Path) (fixed : FixedYear) : List Line :=
  let shown := notice.shownFrom root
  if fixed.changed then
    p.remark (TextStyle.yellow.apply p.colorOut updateMark ++ " Updated year in " ++ shown ++
      ": " ++ toString fixed.previous ++ " -> " ++ toString fixed.current)
  else
    p.remark (p.success ++ " " ++ shown ++ " already ends with " ++ toString fixed.current)

/-- How many files are listed out of so many. -/
def listLength (p : Presentation) (count : Nat) : Nat :=
  if p.volume = .verbose then count else fileListLimit

/-- The lines about files that received a header. -/
def addedFiles (p : Presentation) (root : Path) (files : List Path) : List Line :=
  if files.isEmpty then []
  else
    let count := files.length
    let noun := if count = 1 then "file" else "files"
    let shown := files.take (p.listLength count)
    p.remark (p.success ++ " Added license to " ++ toString count ++ " " ++ noun ++ ":") ++
      shown.flatMap (fun file => p.remark ("  " ++ file.shownFrom root)) ++
      if shown.length < count then
        p.remark ("  " ++ TextStyle.dimmed.apply p.colorOut "" ++ " ... and " ++
          toString (count - shown.length) ++ " more (use -v to see all)")
      else []

/-- A number of hundredths with two places. -/
def twoPlaces (hundredths : Nat) : String :=
  toString (hundredths / 100) ++ "." ++ toString (hundredths / 10 % 10) ++
    toString (hundredths % 10)

/-- A duration in seconds from one second on, else in milliseconds. -/
def duration (microseconds : Nat) : String :=
  if 1000000 ≤ microseconds then twoPlaces ((microseconds + 5000) / 10000) ++ "s"
  else twoPlaces ((microseconds + 5) / 10) ++ "ms"

/-- The line about how long a command took. -/
def cost (p : Presentation) (command : String) (microseconds : Nat) : List Line :=
  p.remark (command ++ " cost: " ++ duration microseconds)

end Presentation

end LicenseAudit
