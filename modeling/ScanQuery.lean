import ScanQuery.Address
import ScanQuery.Codec.Matches
import ScanQuery.Codec.Query
import ScanQuery.Codec.Report
import ScanQuery.Collection
import ScanQuery.Command.Arguments
import ScanQuery.Command.Outcome
import ScanQuery.Command.Request
import ScanQuery.Command.Run
import ScanQuery.Config.File
import ScanQuery.Config.Load
import ScanQuery.Config.Settings
import ScanQuery.FileTree
import ScanQuery.Fill
import ScanQuery.Finding
import ScanQuery.Host
import ScanQuery.HostName
import ScanQuery.Ingest.Document
import ScanQuery.Ingest.Merge
import ScanQuery.Ingest.Path
import ScanQuery.Json.Basic
import ScanQuery.Json.Decode
import ScanQuery.Json.Reader
import ScanQuery.KeyMap
import ScanQuery.Layout
import ScanQuery.Log.Code
import ScanQuery.Log.Event
import ScanQuery.Log.Level
import ScanQuery.Log.Logged
import ScanQuery.Log.Service
import ScanQuery.Main
import ScanQuery.Matches
import ScanQuery.Output.Error
import ScanQuery.Output.Fetch
import ScanQuery.Output.Format
import ScanQuery.Output.Renderer
import ScanQuery.Port
import ScanQuery.Proofs.Address.Grammar
import ScanQuery.Proofs.Address.Order
import ScanQuery.Proofs.Address.Reading
import ScanQuery.Proofs.Answers
import ScanQuery.Proofs.ArrivalOrder
import ScanQuery.Proofs.Codec.Matches
import ScanQuery.Proofs.Codec.Query
import ScanQuery.Proofs.Codec.Report
import ScanQuery.Proofs.Comments
import ScanQuery.Proofs.ConfigLayers
import ScanQuery.Proofs.Directories
import ScanQuery.Proofs.DrillDown
import ScanQuery.Proofs.Extensions
import ScanQuery.Proofs.FailingRuns
import ScanQuery.Proofs.FileTree
import ScanQuery.Proofs.FileTree.Walk
import ScanQuery.Proofs.Fill.Composition
import ScanQuery.Proofs.Fill.Coverage
import ScanQuery.Proofs.Fill.Markers
import ScanQuery.Proofs.Fill.Pieces
import ScanQuery.Proofs.Fill.Refilling
import ScanQuery.Proofs.Fill.Writing
import ScanQuery.Proofs.Filling
import ScanQuery.Proofs.FirstSeen
import ScanQuery.Proofs.HostNames
import ScanQuery.Proofs.HostNames.Extracts
import ScanQuery.Proofs.HostNames.LastWord
import ScanQuery.Proofs.HostNames.OneLine
import ScanQuery.Proofs.HostNames.Patterns
import ScanQuery.Proofs.HostNames.Reading
import ScanQuery.Proofs.HostNames.Shapes
import ScanQuery.Proofs.Ingestion
import ScanQuery.Proofs.Json.Decoding
import ScanQuery.Proofs.Json.Grammar
import ScanQuery.Proofs.Json.Reading
import ScanQuery.Proofs.KeyMap
import ScanQuery.Proofs.LayoutDecision
import ScanQuery.Proofs.Outputs
import ScanQuery.Proofs.PluginLists
import ScanQuery.Proofs.PluginPartition
import ScanQuery.Proofs.PortOrder
import ScanQuery.Proofs.PortOverview
import ScanQuery.Proofs.Query.Alternatives
import ScanQuery.Proofs.Query.Connectives
import ScanQuery.Proofs.Query.DeadClauses
import ScanQuery.Proofs.Query.Grammar
import ScanQuery.Proofs.Query.LetterCase
import ScanQuery.Proofs.Query.LevelOrder
import ScanQuery.Proofs.Query.Levels
import ScanQuery.Proofs.Query.OneClause
import ScanQuery.Proofs.Query.OwnAttribute
import ScanQuery.Proofs.Query.Pieces
import ScanQuery.Proofs.Query.Reading
import ScanQuery.Proofs.Rerendering
import ScanQuery.Proofs.ResultState
import ScanQuery.Proofs.Rows
import ScanQuery.Proofs.Selection
import ScanQuery.Proofs.SharedPorts
import ScanQuery.Proofs.Sorting
import ScanQuery.Proofs.Summary
import ScanQuery.Proofs.Tables
import ScanQuery.Proofs.Text.Case
import ScanQuery.Proofs.Text.Lines
import ScanQuery.Proofs.Text.Lowering
import ScanQuery.Proofs.Text.Numerals
import ScanQuery.Proofs.Text.Recasing
import ScanQuery.Proofs.Text.Runs
import ScanQuery.Proofs.Text.Split
import ScanQuery.Proofs.Text.Trim
import ScanQuery.Proofs.WellFormed
import ScanQuery.Query.Eval
import ScanQuery.Query.Lexical
import ScanQuery.Query.Parser
import ScanQuery.Query.Syntax
import ScanQuery.Report
import ScanQuery.Severity
import ScanQuery.Template.Eval
import ScanQuery.Template.Expr
import ScanQuery.Template.Expr.Reader
import ScanQuery.Template.Fault
import ScanQuery.Template.Literal
import ScanQuery.Template.Node
import ScanQuery.Template.Piece
import ScanQuery.Template.Target
import ScanQuery.Template.Value
import ScanQuery.Text.Blank
import ScanQuery.Text.Case
import ScanQuery.Text.CaseTable
import ScanQuery.Text.Decimal
import ScanQuery.Text.HiddenTable
import ScanQuery.Text.Quoted
import ScanQuery.Text.Radix
import ScanQuery.Text.Split
import ScanQuery.Text.WordTable
import ScanQuery.Toml.Reader
import ScanQuery.Toml.Scalar
import ScanQuery.Toml.Value
import ScanQuery.Xml.Markup
import ScanQuery.Xml.Namespace
import ScanQuery.Xml.Tree
