import DockerfileAudit.CommandLine.Arguments
import DockerfileAudit.CommandLine.Run
import DockerfileAudit.Dockerfile.Document
import DockerfileAudit.Dockerfile.Statement
import DockerfileAudit.Instruction.Basic
import DockerfileAudit.Instruction.Files
import DockerfileAudit.Json.Basic
import DockerfileAudit.Json.Reader
import DockerfileAudit.Log.Event
import DockerfileAudit.Log.Filter
import DockerfileAudit.Main
import DockerfileAudit.Pattern.Automaton
import DockerfileAudit.Pattern.Bracket
import DockerfileAudit.Pattern.Class
import DockerfileAudit.Pattern.Compile
import DockerfileAudit.Pattern.Escape
import DockerfileAudit.Pattern.Expr
import DockerfileAudit.Pattern.Flags
import DockerfileAudit.Pattern.Reader
import DockerfileAudit.Pattern.Search
import DockerfileAudit.Proofs.Arguments
import DockerfileAudit.Proofs.Assignments
import DockerfileAudit.Proofs.CaseFolding
import DockerfileAudit.Proofs.CommandLine
import DockerfileAudit.Proofs.Composition
import DockerfileAudit.Proofs.Directive
import DockerfileAudit.Proofs.Discovery
import DockerfileAudit.Proofs.EscapeChoice
import DockerfileAudit.Proofs.ExecForm
import DockerfileAudit.Proofs.Files
import DockerfileAudit.Proofs.Findings
import DockerfileAudit.Proofs.Heredocs
import DockerfileAudit.Proofs.History
import DockerfileAudit.Proofs.Isolation
import DockerfileAudit.Proofs.Json
import DockerfileAudit.Proofs.Layout
import DockerfileAudit.Proofs.LeadingFlags
import DockerfileAudit.Proofs.LineEndings
import DockerfileAudit.Proofs.Lines
import DockerfileAudit.Proofs.ListedDetails
import DockerfileAudit.Proofs.Monotone
import DockerfileAudit.Proofs.OneLine
import DockerfileAudit.Proofs.PackageManagers
import DockerfileAudit.Proofs.PathOrder
import DockerfileAudit.Proofs.PlainPattern
import DockerfileAudit.Proofs.Positions
import DockerfileAudit.Proofs.Query
import DockerfileAudit.Proofs.QuotedWords
import DockerfileAudit.Proofs.Reading
import DockerfileAudit.Proofs.Registration
import DockerfileAudit.Proofs.ReportJson
import DockerfileAudit.Proofs.ReportText
import DockerfileAudit.Proofs.RootUser
import DockerfileAudit.Proofs.Search
import DockerfileAudit.Proofs.Shape
import DockerfileAudit.Proofs.Silence
import DockerfileAudit.Proofs.SinglePair
import DockerfileAudit.Proofs.SmallLetters
import DockerfileAudit.Proofs.SortedSet
import DockerfileAudit.Proofs.SplitLines
import DockerfileAudit.Proofs.Statement
import DockerfileAudit.Proofs.Trim
import DockerfileAudit.Proofs.UsablePaths
import DockerfileAudit.Proofs.Verdict
import DockerfileAudit.Proofs.Words
import DockerfileAudit.Proofs.WrittenFiles
import DockerfileAudit.Report
import DockerfileAudit.Rule.Basic
import DockerfileAudit.Rule.Check
import DockerfileAudit.Session
import DockerfileAudit.Text.Basic
import DockerfileAudit.Text.Case
import DockerfileAudit.Text.CodeSet
import DockerfileAudit.Text.Property.Age
import DockerfileAudit.Text.Property.Binary
import DockerfileAudit.Text.Property.Break
import DockerfileAudit.Text.Property.GeneralCategory
import DockerfileAudit.Text.Property.Script
import DockerfileAudit.Text.Property.ScriptUse
import DockerfileAudit.Tree.Discover
import DockerfileAudit.Tree.Path
