import BenchJob.Act
import BenchJob.Calendar
import BenchJob.Command
import BenchJob.CommandLine
import BenchJob.CommandLine.Flag
import BenchJob.CommandLine.Help
import BenchJob.CommandLine.Stop
import BenchJob.CommandLine.Word
import BenchJob.Commit
import BenchJob.Config
import BenchJob.Config.Document
import BenchJob.Config.Settings
import BenchJob.Config.Source
import BenchJob.Decimal.Shortest
import BenchJob.Decimal.Text
import BenchJob.Envelope
import BenchJob.Execution
import BenchJob.Failure
import BenchJob.Job
import BenchJob.Json.Fault
import BenchJob.Json.Printer
import BenchJob.Json.Scan.Basic
import BenchJob.Json.Scan.Brackets
import BenchJob.Json.Scan.Kind
import BenchJob.Json.Scan.Numeral
import BenchJob.Json.Scan.Text
import BenchJob.Json.Value
import BenchJob.LocalBuild
import BenchJob.Main
import BenchJob.Notice
import BenchJob.Outcome
import BenchJob.Overrides
import BenchJob.Report
import BenchJob.Shell
import BenchJob.Text.Blank
import BenchJob.Text.Hidden
import BenchJob.Text.Integer
import BenchJob.Text.Quoted
import BenchJob.Text.Utf8
import BenchJob.Text.Visible
import BenchJob.World
import BenchJob.World.Files
import BenchJob.World.Path
import BenchJob.World.Programs
import BenchJob.Proofs.Shell.Line
import BenchJob.Proofs.Shell.Rendering
import BenchJob.Proofs.Config.Layers
import BenchJob.Proofs.Host
import BenchJob.Proofs.Course
import BenchJob.Proofs.PlanAndRun
import BenchJob.Proofs.Arguments
import BenchJob.Proofs.Attempts
import BenchJob.Proofs.ExitCode
import BenchJob.Proofs.LocalBuild
import BenchJob.Proofs.Json.Strings
import BenchJob.Proofs.Envelope.Opening
import BenchJob.Proofs.Json.Numbers
import BenchJob.Proofs.Json.Reader
import BenchJob.Proofs.Json.RoundTrip
import BenchJob.Proofs.Envelope.Decoding
import BenchJob.Proofs.Reports
import BenchJob.Proofs.Config.Stack
import BenchJob.Proofs.ShownCommand
import BenchJob.Proofs.Json.Grammar
import BenchJob.Proofs.Json.Scanning
import BenchJob.Proofs.Text.Utf8
import BenchJob.Proofs.Config.Document
import BenchJob.Proofs.Json.Layout
import BenchJob.Proofs.Config.Saved
import BenchJob.Proofs.Json.Documents
import BenchJob.Proofs.CommandLine.Lines
import BenchJob.Proofs.Terminal
import BenchJob.Proofs.Job.Session
import BenchJob.Proofs.Job.Exchanges
import BenchJob.Proofs.Overrides.Agreement
import BenchJob.Proofs.Text.Integer
import BenchJob.Proofs.Path
import BenchJob.Proofs.ResultFiles
import BenchJob.Proofs.Commit
import BenchJob.Proofs.Calendar.Timestamps
import BenchJob.Proofs.Config.Settings
import BenchJob.Proofs.Config.Source
import BenchJob.Proofs.ErrorText
