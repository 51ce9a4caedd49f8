import LicenseAudit.Text.Search
import LicenseAudit.Text.Numeral
import LicenseAudit.Text.Lines
import LicenseAudit.Text.Blank
import LicenseAudit.Text.Utf8
import LicenseAudit.Text.Lowercase
import LicenseAudit.Text.CaseFold
import LicenseAudit.Path.Relative
import LicenseAudit.Header.Registry
import LicenseAudit.Header.Insert
import LicenseAudit.FileSystem.Basic
import LicenseAudit.FileSystem.Operations
import LicenseAudit.Program.Replace
import LicenseAudit.Text.Property.CodeSet
import LicenseAudit.Text.Property.Category
import LicenseAudit.Text.Property.Script
import LicenseAudit.Text.Property.ScriptExtension
import LicenseAudit.Text.Property.Binary
import LicenseAudit.Pattern.CharSet
import LicenseAudit.Pattern.Basic
import LicenseAudit.Pattern.Cost
import LicenseAudit.Pattern.Property
import LicenseAudit.Pattern.Reader
import LicenseAudit.Selection.NamePatterns
import LicenseAudit.Selection.Filter
import LicenseAudit.Selection.Walk
import LicenseAudit.Notice.Document
import LicenseAudit.Pool.Basic
import LicenseAudit.Audit.Engine
import LicenseAudit.Toml.Value
import LicenseAudit.Toml.Scalar
import LicenseAudit.Toml.Document
import LicenseAudit.Toml.Reader
import LicenseAudit.Config.Load
import LicenseAudit.Config.Settings
import LicenseAudit.Report.Json
import LicenseAudit.Report.Basic
import LicenseAudit.CommandLine.Arguments
import LicenseAudit.CommandLine.Console
import LicenseAudit.CommandLine.Session
import LicenseAudit.CommandLine.Run
import LicenseAudit.Main
import LicenseAudit.Proofs.Increasing
import LicenseAudit.Proofs.Success
import LicenseAudit.Proofs.Text.Line
import LicenseAudit.Proofs.Text.Utf8
import LicenseAudit.Proofs.Text.Trim
import LicenseAudit.Proofs.Text.Lowercase
import LicenseAudit.Proofs.Path.Parts
import LicenseAudit.Proofs.Path.Shown
import LicenseAudit.Proofs.Path.Order
import LicenseAudit.Proofs.Path.Along
import LicenseAudit.Proofs.Path.Below
import LicenseAudit.Proofs.FileSystem.Resolve
import LicenseAudit.Proofs.FileSystem.Trees
import LicenseAudit.Proofs.FileSystem.Seat
import LicenseAudit.Proofs.FileSystem.Lists
import LicenseAudit.Proofs.FileSystem.Alike
import LicenseAudit.Proofs.FileSystem.Changes
import LicenseAudit.Proofs.FileSystem.Canonical
import LicenseAudit.Proofs.FileSystem.Written
import LicenseAudit.Proofs.FileSystem.Grown
import LicenseAudit.Proofs.Program.Run
import LicenseAudit.Proofs.Program.Replace
import LicenseAudit.Proofs.Program.Install
import LicenseAudit.Proofs.Program.Beside
import LicenseAudit.Proofs.Program.Around
import LicenseAudit.Proofs.Program.Designated
import LicenseAudit.Proofs.Program.Fault
import LicenseAudit.Proofs.Program.Passage
import LicenseAudit.Proofs.Program.Atomic
import LicenseAudit.Proofs.Program.Failure
import LicenseAudit.Proofs.Program.Footprint
import LicenseAudit.Proofs.Program.Refusal
import LicenseAudit.Proofs.Program.Remnant
import LicenseAudit.Proofs.Header.Marker
import LicenseAudit.Proofs.Config.Marker
import LicenseAudit.Proofs.Notice.Range
import LicenseAudit.Proofs.Notice.Search
import LicenseAudit.Proofs.Header.Declaration
import LicenseAudit.Proofs.Header.Placement
import LicenseAudit.Proofs.Header.Markup
import LicenseAudit.Proofs.Header.Text
import LicenseAudit.Proofs.Header.Rendering
import LicenseAudit.Proofs.Header.Overrides
import LicenseAudit.Proofs.Header.LetterCase
import LicenseAudit.Proofs.Notice.Document
import LicenseAudit.Proofs.Notice.Repeat
import LicenseAudit.Proofs.Notice.Failure
import LicenseAudit.Proofs.Selection.Walk
import LicenseAudit.Proofs.Selection.Growth
import LicenseAudit.Proofs.Selection.Reach
import LicenseAudit.Proofs.Selection.Root
import LicenseAudit.Proofs.Selection.Intersection
import LicenseAudit.Proofs.Pool.Step
import LicenseAudit.Proofs.Pool.Ledger
import LicenseAudit.Proofs.Pool.Progress
import LicenseAudit.Proofs.Pool.Completion
import LicenseAudit.Proofs.Pool.Outcome
import LicenseAudit.Proofs.Pool.Replacing
import LicenseAudit.Proofs.Pool.Serial
import LicenseAudit.Proofs.Pool.Failing
import LicenseAudit.Proofs.Pool.Unbroken
import LicenseAudit.Proofs.Audit.Ends
import LicenseAudit.Proofs.Audit.Check
import LicenseAudit.Proofs.Audit.Mending
import LicenseAudit.Proofs.Audit.FixAll
import LicenseAudit.Proofs.Audit.Repair
import LicenseAudit.Proofs.Audit.Classes
import LicenseAudit.Proofs.Audit.Agreement
import LicenseAudit.Proofs.Audit.Relocation
import LicenseAudit.Proofs.Audit.Frame
import LicenseAudit.Proofs.Audit.Serial
import LicenseAudit.Proofs.Audit.Interleaving
import LicenseAudit.Proofs.Audit.Clean
import LicenseAudit.Proofs.Audit.Exclusion
import LicenseAudit.Proofs.Toml.Reader
import LicenseAudit.Proofs.Toml.Comment
import LicenseAudit.Proofs.Toml.Keys
import LicenseAudit.Proofs.Config.Reload
import LicenseAudit.Proofs.Config.Styles
import LicenseAudit.Proofs.Config.Order
import LicenseAudit.Proofs.Config.Effect
import LicenseAudit.Proofs.CommandLine.Exit
import LicenseAudit.Proofs.CommandLine.Account
import LicenseAudit.Proofs.CommandLine.Session
import LicenseAudit.Proofs.CommandLine.Status
import LicenseAudit.Proofs.CommandLine.Target
import LicenseAudit.Proofs.CommandLine.FixThenLint
import LicenseAudit.Proofs.CommandLine.Lines
import LicenseAudit.Proofs.Notice.Refusal
import LicenseAudit.Proofs.CommandLine.Plain
import LicenseAudit.Proofs.CommandLine.Presentation
import LicenseAudit.Proofs.Program.Cause
import LicenseAudit.Proofs.CommandLine.Findings
import LicenseAudit.Proofs.Config.HeaderText
import LicenseAudit.Proofs.Pattern.Matching
import LicenseAudit.Proofs.Pattern.Literal
import LicenseAudit.Proofs.Pattern.Escape
import LicenseAudit.Proofs.Notice.Pattern
import LicenseAudit.Proofs.Selection.Names
