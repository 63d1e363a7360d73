import LineMacro.Arguments
import LineMacro.Arguments.Balanced
import LineMacro.Cli.Decode
import LineMacro.Cli.Expand
import LineMacro.Cli.FileTree
import LineMacro.Cli.Manual
import LineMacro.Cli.Options
import LineMacro.Cli.Path
import LineMacro.Cli.Server
import LineMacro.Definition
import LineMacro.Document
import LineMacro.Document.Visible
import LineMacro.Editor
import LineMacro.Expansion
import LineMacro.Expansion.Calls
import LineMacro.Expansion.Nesting
import LineMacro.Expansion.Relation
import LineMacro.Failure
import LineMacro.Keyed
import LineMacro.Log
import LineMacro.Macro
import LineMacro.Main
import LineMacro.Proofs.Arguments.Closing
import LineMacro.Proofs.Arguments.Heights
import LineMacro.Proofs.Arguments.Joined
import LineMacro.Proofs.Arguments.Pieces
import LineMacro.Proofs.Cli.Command
import LineMacro.Proofs.Cli.Excerpt
import LineMacro.Proofs.Cli.Settings
import LineMacro.Proofs.Definition.Characters
import LineMacro.Proofs.Definition.Grammar
import LineMacro.Proofs.Definition.Parts
import LineMacro.Proofs.Definition.Place
import LineMacro.Proofs.Definition.Return
import LineMacro.Proofs.Definition.Written
import LineMacro.Proofs.Document.Append
import LineMacro.Proofs.Document.Failure
import LineMacro.Proofs.Document.FullyExpanded
import LineMacro.Proofs.Document.History
import LineMacro.Proofs.Document.LastDefinition
import LineMacro.Proofs.Document.Lines
import LineMacro.Proofs.Document.Numbers
import LineMacro.Proofs.Document.OutputLines
import LineMacro.Proofs.Document.Outputs
import LineMacro.Proofs.Document.PointsInto
import LineMacro.Proofs.Document.Returns
import LineMacro.Proofs.Document.SameMacros
import LineMacro.Proofs.Document.SameNames
import LineMacro.Proofs.Document.Seeds
import LineMacro.Proofs.Document.Session
import LineMacro.Proofs.Document.Shadowed
import LineMacro.Proofs.Document.SpelledOut
import LineMacro.Proofs.Document.Swap
import LineMacro.Proofs.Document.Visible
import LineMacro.Proofs.Document.Wording
import LineMacro.Proofs.Editor.Completion
import LineMacro.Proofs.Editor.Diagnostics
import LineMacro.Proofs.Editor.Hover
import LineMacro.Proofs.Editor.Spans
import LineMacro.Proofs.Editor.Visible
import LineMacro.Proofs.Editor.Word
import LineMacro.Proofs.Expansion.Append
import LineMacro.Proofs.Expansion.Bodies
import LineMacro.Proofs.Expansion.Characters
import LineMacro.Proofs.Expansion.Depth
import LineMacro.Proofs.Expansion.Inert
import LineMacro.Proofs.Expansion.Lookup
import LineMacro.Proofs.Expansion.Matching
import LineMacro.Proofs.Expansion.Nesting
import LineMacro.Proofs.Expansion.OnePass
import LineMacro.Proofs.Expansion.Place
import LineMacro.Proofs.Expansion.Reading
import LineMacro.Proofs.Expansion.Steps
import LineMacro.Proofs.Expansion.Words
import LineMacro.Proofs.Report.Caret
import LineMacro.Proofs.Report.Header
import LineMacro.Proofs.Report.Inline
import LineMacro.Proofs.Report.OneLine
import LineMacro.Proofs.Report.Wrapping
import LineMacro.Proofs.Substitution
import LineMacro.Proofs.Substitution.Renaming
import LineMacro.Proofs.Substitution.Simultaneous
import LineMacro.Proofs.Table.Installed
import LineMacro.Proofs.Text.Alternation
import LineMacro.Proofs.Text.Cell
import LineMacro.Proofs.Text.Padding
import LineMacro.Proofs.Workspace.Completion
import LineMacro.Proofs.Workspace.Latest
import LineMacro.Report.Excerpt
import LineMacro.Report.Grid
import LineMacro.Report.Inline
import LineMacro.Report.Layout
import LineMacro.Report.MacroList
import LineMacro.Report.Symbol
import LineMacro.Report.Symbol.CodesAToE
import LineMacro.Report.Symbol.CodesFToK
import LineMacro.Report.Symbol.CodesLToR
import LineMacro.Report.Symbol.CodesSToZ
import LineMacro.Report.Symbol.People
import LineMacro.Substitution
import LineMacro.Table
import LineMacro.Text.Alternation
import LineMacro.Text.Basic
import LineMacro.Text.Blank
import LineMacro.Text.Cell
import LineMacro.Text.Cell.Ranges
import LineMacro.Text.DecimalDigit
import LineMacro.Text.Integer
import LineMacro.Text.Order
import LineMacro.Text.Position
import LineMacro.Text.Quoted
import LineMacro.Text.Return
import LineMacro.Text.Unprintable
import LineMacro.Text.Word
import LineMacro.Workspace
