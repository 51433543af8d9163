import TreeLint.Analyzer
import TreeLint.Check
import TreeLint.Cli.Arguments
import TreeLint.Cli.Check
import TreeLint.Cli.Command
import TreeLint.Cli.ConfigTemplate
import TreeLint.Cli.RuleList
import TreeLint.Cli.Run
import TreeLint.Config.Basic
import TreeLint.Config.Locate
import TreeLint.Config.Read
import TreeLint.Discovery
import TreeLint.Dispatcher
import TreeLint.Dump.Basic
import TreeLint.Dump.Text
import TreeLint.ErrorTrace
import TreeLint.FileSystem
import TreeLint.Glob
import TreeLint.Json.Decode
import TreeLint.Json.Error
import TreeLint.Json.Reader
import TreeLint.Json.Scan
import TreeLint.Json.Skip
import TreeLint.Json.Value
import TreeLint.Main
import TreeLint.Message
import TreeLint.NodeKind
import TreeLint.Number.Binary64
import TreeLint.Path
import TreeLint.Proofs.Analyzer.Outcomes
import TreeLint.Proofs.Analyzer.Relabelling
import TreeLint.Proofs.Analyzer.Selection
import TreeLint.Proofs.Analyzer.Tally
import TreeLint.Proofs.Cli.Refusals
import TreeLint.Proofs.Cli.Verdict
import TreeLint.Proofs.Config.Nearest
import TreeLint.Proofs.Config.Tables
import TreeLint.Proofs.Discovery.Excluding
import TreeLint.Proofs.Discovery.Search
import TreeLint.Proofs.Dispatcher.Admission
import TreeLint.Proofs.Dispatcher.Callbacks
import TreeLint.Proofs.Dispatcher.Isolation
import TreeLint.Proofs.Dispatcher.Judging
import TreeLint.Proofs.Dispatcher.Moments
import TreeLint.Proofs.Dispatcher.Registration
import TreeLint.Proofs.Dispatcher.Run
import TreeLint.Proofs.Dump.Acceptance
import TreeLint.Proofs.Dump.Countdown
import TreeLint.Proofs.Dump.Inverse
import TreeLint.Proofs.Dump.RoundTrip
import TreeLint.Proofs.FileSystem
import TreeLint.Proofs.Glob.Matching
import TreeLint.Proofs.Json.ReadBack
import TreeLint.Proofs.Message.Pieces
import TreeLint.Proofs.Path.Ancestors
import TreeLint.Proofs.Path.Order
import TreeLint.Proofs.Report.Compact
import TreeLint.Proofs.Rules.ConstructorScopes
import TreeLint.Proofs.Rules.Firing
import TreeLint.Proofs.Rules.ScopeMirror
import TreeLint.Proofs.Severity
import TreeLint.Proofs.Tree.Arena
import TreeLint.Proofs.Tree.Construction
import TreeLint.Proofs.Tree.Growth
import TreeLint.Proofs.Tree.Linearization
import TreeLint.Proofs.Tree.Navigation
import TreeLint.Proofs.Tree.Siblings
import TreeLint.Proofs.Tree.Subtree
import TreeLint.Proofs.Tree.Tour
import TreeLint.Proofs.Tree.Trouble
import TreeLint.Report.Basic
import TreeLint.Report.Format
import TreeLint.Report.Json
import TreeLint.Report.Sink
import TreeLint.Rules.ConstructorDispatch
import TreeLint.Rules.NodeRule
import TreeLint.Rules.OctalValue
import TreeLint.Rules.Preset
import TreeLint.ScopeStack
import TreeLint.Severity
import TreeLint.Text.Alphanumeric
import TreeLint.Text.Blank
import TreeLint.Text.ControlSequence
import TreeLint.Text.Decimal
import TreeLint.Text.Fields
import TreeLint.Text.Hidden
import TreeLint.Text.LineBreak.Class
import TreeLint.Text.LineBreak.Rules
import TreeLint.Text.Logged
import TreeLint.Text.Quoted
import TreeLint.Text.Ranges
import TreeLint.Text.Width
import TreeLint.Text.Wrap
import TreeLint.Toml.DateTime
import TreeLint.Toml.Document
import TreeLint.Toml.Number
import TreeLint.Toml.Scan
import TreeLint.Toml.Value
import TreeLint.Tree.Basic
import TreeLint.Tree.Builder
import TreeLint.Tree.Traversal
