import ProseLinter.CommandLine.Help
import ProseLinter.CommandLine.Options
import ProseLinter.CommandLine.Run
import ProseLinter.Config.Basic
import ProseLinter.Config.Load
import ProseLinter.Config.Show
import ProseLinter.Config.Validate
import ProseLinter.Context
import ProseLinter.Digest
import ProseLinter.Document
import ProseLinter.Extension.Bundled
import ProseLinter.Extension.Compiled
import ProseLinter.Extension.Export
import ProseLinter.Extension.Family
import ProseLinter.Extension.Find
import ProseLinter.Extension.Load
import ProseLinter.Extension.Resolve
import ProseLinter.Extension.Source
import ProseLinter.Extension.Workspace
import ProseLinter.Failure
import ProseLinter.FileTree.Basic
import ProseLinter.FileTree.Collect
import ProseLinter.FileTree.Edit
import ProseLinter.FileTree.Walk
import ProseLinter.Fix
import ProseLinter.Json.Basic
import ProseLinter.Json.Described
import ProseLinter.Json.Writer
import ProseLinter.Layout.FixReport
import ProseLinter.Layout.LintReport
import ProseLinter.Layout.Reporter
import ProseLinter.Layout.Styled
import ProseLinter.LineMap
import ProseLinter.Lint
import ProseLinter.Main
import ProseLinter.Number.Binary64
import ProseLinter.Number.Integer
import ProseLinter.Number.Reader
import ProseLinter.Number.Shortest
import ProseLinter.Path
import ProseLinter.Pattern.CharClass
import ProseLinter.Pattern.Glob
import ProseLinter.Pattern.Wildcard
import ProseLinter.Proofs.LineMap.Starts
import ProseLinter.Raised
import ProseLinter.Result
import ProseLinter.Rule.Basic
import ProseLinter.Rule.Bundled
import ProseLinter.Rule.Markers
import ProseLinter.Rule.Script
import ProseLinter.Rule.TrailingSpaces
import ProseLinter.RuleConfig
import ProseLinter.Run
import ProseLinter.Scan
import ProseLinter.Severity
import ProseLinter.Text.CharSet
import ProseLinter.Text.Class
import ProseLinter.Text.Encoding
import ProseLinter.Text.Hex
import ProseLinter.Text.Node
import ProseLinter.Text.Quoted
import ProseLinter.Text.Similarity
import ProseLinter.Text.Table.Identifier
import ProseLinter.Text.Table.Printable
import ProseLinter.Text.Table.Word
import ProseLinter.Text.Utf8
import ProseLinter.Toml.Fault
import ProseLinter.Toml.Reader
import ProseLinter.Toml.Scalar
import ProseLinter.Toml.Text
import ProseLinter.Value.Access
import ProseLinter.Value.Basic
import ProseLinter.Value.Method
import ProseLinter.Value.Moment
import ProseLinter.Value.Order
import ProseLinter.Value.Show
import ProseLinter.Proofs.LineMap.Position
import ProseLinter.Proofs.LineMap.Feeds
import ProseLinter.Proofs.Document.Decomposition
import ProseLinter.Proofs.Lint.Reports
import ProseLinter.Proofs.StableSort
import ProseLinter.Proofs.Lint.Run
import ProseLinter.Proofs.Lint.Noninterference
import ProseLinter.Proofs.Lint.Placement
import ProseLinter.Proofs.Context.Session
import ProseLinter.Proofs.Rule.TrailingSpaces
import ProseLinter.Proofs.Fix.AtOnce
import ProseLinter.Proofs.Rule.TrailingSpaces.Mended
import ProseLinter.Proofs.Run.Files
import ProseLinter.Proofs.Text.LineBreaks
import ProseLinter.Proofs.Rule.TrailingSpaces.InFiles
import ProseLinter.Proofs.FileTree.Links
import ProseLinter.Proofs.FileTree.Collect
import ProseLinter.Proofs.Scan.Run
import ProseLinter.Proofs.Scan.Selection
import ProseLinter.Proofs.Scan.Order
import ProseLinter.Proofs.Extension.Resolve
import ProseLinter.Proofs.Extension.Source
import ProseLinter.Proofs.Extension.Names
import ProseLinter.Proofs.Extension.Import
import ProseLinter.Proofs.Extension.Agree
import ProseLinter.Proofs.Extension.Cause
import ProseLinter.Proofs.Extension.Locate
import ProseLinter.Proofs.FileTree.LinkFree
import ProseLinter.Proofs.Extension.Discipline
import ProseLinter.Proofs.Run.Rules
import ProseLinter.Proofs.Config.Load
import ProseLinter.Proofs.Text.Utf8
import ProseLinter.Proofs.Json.Grammar
import ProseLinter.Proofs.Json.Reader
import ProseLinter.Proofs.Json.Writer
import ProseLinter.Proofs.Json.Data
import ProseLinter.Proofs.Layout.Decoration
import ProseLinter.Proofs.Layout.Lossless
import ProseLinter.Proofs.Config.Accepted
import ProseLinter.Proofs.Config.Dump
import ProseLinter.Proofs.Config.Usable
import ProseLinter.Proofs.Extension.Listing
import ProseLinter.Proofs.Pattern.Wildcard
import ProseLinter.Proofs.Pattern.Glob
import ProseLinter.Proofs.Pattern.Anywhere
import ProseLinter.Proofs.Scan.Defaults
import ProseLinter.Proofs.Layout.Totals
import ProseLinter.Proofs.Run.Reports
import ProseLinter.Proofs.Scan.Absorbed
import ProseLinter.Proofs.CommandLine.Settings
import ProseLinter.Proofs.Rule.OnLines
import ProseLinter.Proofs.Rule.Markers
import ProseLinter.Proofs.Rule.Markers.Boundaries
import ProseLinter.Proofs.Rule.Markers.WholeWords
import ProseLinter.Proofs.Rule.Markers.StandingAlone
import ProseLinter.Proofs.Config.Defects
import ProseLinter.Proofs.Rule.Bundled
import ProseLinter.Proofs.Run.Lines
