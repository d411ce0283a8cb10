import LocaleKeys.Ast.Defect
import LocaleKeys.Ast.Kind
import LocaleKeys.Ast.Node
import LocaleKeys.Ast.OfValue
import LocaleKeys.Ast.Parses
import LocaleKeys.Ast.Source
import LocaleKeys.Ast.Stack
import LocaleKeys.Call.Arguments
import LocaleKeys.Call.Site
import LocaleKeys.CallGraph
import LocaleKeys.Command
import LocaleKeys.Command.Line
import LocaleKeys.Command.Scan
import LocaleKeys.Configuration
import LocaleKeys.Configuration.Fault
import LocaleKeys.Console
import LocaleKeys.Data.Value
import LocaleKeys.Data.Value.Printer
import LocaleKeys.Data.Value.Reader
import LocaleKeys.Environment
import LocaleKeys.Environment.File
import LocaleKeys.Event
import LocaleKeys.Fault
import LocaleKeys.Files
import LocaleKeys.Hint
import LocaleKeys.Index
import LocaleKeys.Key
import LocaleKeys.Literal
import LocaleKeys.Log
import LocaleKeys.Main
import LocaleKeys.Mode
import LocaleKeys.Name
import LocaleKeys.Occurrence
import LocaleKeys.Outline
import LocaleKeys.Outline.OfTree
import LocaleKeys.Path
import LocaleKeys.Proofs.Accounts
import LocaleKeys.Proofs.Attribution
import LocaleKeys.Proofs.BlurredValues
import LocaleKeys.Proofs.ByteLines
import LocaleKeys.Proofs.CallGraph
import LocaleKeys.Proofs.CallbackArguments
import LocaleKeys.Proofs.CollectedFiles
import LocaleKeys.Proofs.CommandReport
import LocaleKeys.Proofs.Composition
import LocaleKeys.Proofs.Counts
import LocaleKeys.Proofs.CycleGuards
import LocaleKeys.Proofs.Defects
import LocaleKeys.Proofs.Definitions
import LocaleKeys.Proofs.Directives
import LocaleKeys.Proofs.DocumentOrder
import LocaleKeys.Proofs.EntryPoints
import LocaleKeys.Proofs.ExplicitValues
import LocaleKeys.Proofs.Files
import LocaleKeys.Proofs.HintGrammar
import LocaleKeys.Proofs.HintKeys
import LocaleKeys.Proofs.HintLines
import LocaleKeys.Proofs.Hints
import LocaleKeys.Proofs.Index
import LocaleKeys.Proofs.InertComments
import LocaleKeys.Proofs.KeywordOptions
import LocaleKeys.Proofs.Lines
import LocaleKeys.Proofs.Namespaces
import LocaleKeys.Proofs.Node
import LocaleKeys.Proofs.Numerals
import LocaleKeys.Proofs.PlainMode
import LocaleKeys.Proofs.PlainSearch
import LocaleKeys.Proofs.Positions
import LocaleKeys.Proofs.QualifiedKeys
import LocaleKeys.Proofs.RelativeKeys
import LocaleKeys.Proofs.Roots
import LocaleKeys.Proofs.ScanOutcome
import LocaleKeys.Proofs.ScopedKeys
import LocaleKeys.Proofs.Search
import LocaleKeys.Proofs.SingletonClasses
import LocaleKeys.Proofs.StrictMode
import LocaleKeys.Proofs.Terminals
import LocaleKeys.Proofs.Trail
import LocaleKeys.Proofs.Uncommented
import LocaleKeys.Proofs.Utf8
import LocaleKeys.Proofs.Verdicts
import LocaleKeys.Proofs.Visibility
import LocaleKeys.Proofs.Walk
import LocaleKeys.Proofs.WalkSteps
import LocaleKeys.Proofs.WellFormedIndex
import LocaleKeys.Proofs.WordBreaks
import LocaleKeys.Resolve
import LocaleKeys.Scan
import LocaleKeys.Search
import LocaleKeys.Settings
import LocaleKeys.Terminal
import LocaleKeys.Text.Blank
import LocaleKeys.Text.Case
import LocaleKeys.Text.Case.Table
import LocaleKeys.Text.CodeRange
import LocaleKeys.Text.Decimal
import LocaleKeys.Text.Emoji
import LocaleKeys.Text.Emoji.Table
import LocaleKeys.Text.Lines
import LocaleKeys.Text.Numeral
import LocaleKeys.Text.Printable
import LocaleKeys.Text.Quoted
import LocaleKeys.Text.Utf8
