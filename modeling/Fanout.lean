import Fanout.Analysis.Finish
import Fanout.Analysis.Result
import Fanout.Bytes.Base64
import Fanout.Bytes.Utf8
import Fanout.CommandLine.Arguments
import Fanout.CommandLine.Invocation
import Fanout.Concrete.Cursor
import Fanout.Concrete.Tree
import Fanout.Decimal.Reading
import Fanout.Decimal.Shortest
import Fanout.Decimal.Text
import Fanout.Files.Basic
import Fanout.Glob.Expand
import Fanout.Glob.Pattern
import Fanout.Grammar.Boundary
import Fanout.Grammar.Expression
import Fanout.Grammar.Kind
import Fanout.Grammar.Lexeme
import Fanout.Grammar.Literal
import Fanout.Grammar.Machine
import Fanout.Grammar.Markup
import Fanout.Grammar.Pattern
import Fanout.Grammar.Reading
import Fanout.Grammar.Repair
import Fanout.Grammar.Rule
import Fanout.Grammar.Statement
import Fanout.Grammar.Table
import Fanout.Impact.Advice
import Fanout.Impact.Metrics
import Fanout.Insight.Basic
import Fanout.Insight.Figure
import Fanout.Insight.LabeledReply
import Fanout.Insight.Merge
import Fanout.Insight.ObjectReply
import Fanout.Insight.Prompt
import Fanout.Insight.Reply
import Fanout.Issue.Basic
import Fanout.Issue.Json
import Fanout.Issue.Severity
import Fanout.Json.Basic
import Fanout.Json.Cursor
import Fanout.Json.Reader
import Fanout.Json.Record
import Fanout.Json.Shape
import Fanout.Json.Token
import Fanout.Json.Writer
import Fanout.Log.Event
import Fanout.Log.Filter
import Fanout.Log.Outcome
import Fanout.Main
import Fanout.Path.Basic
import Fanout.Path.Part
import Fanout.Pattern.Rules
import Fanout.Program
import Fanout.Proofs.Tree.Address
import Fanout.Proofs.Tree.Walk
import Fanout.Remote.Chat
import Fanout.Remote.Content
import Fanout.Remote.Error
import Fanout.Remote.Github
import Fanout.Remote.Host
import Fanout.Remote.Http
import Fanout.Remote.Percent
import Fanout.Remote.Url
import Fanout.Report.Human
import Fanout.Report.Markdown
import Fanout.Report.Output
import Fanout.Report.Paint
import Fanout.Report.Scan
import Fanout.Review.Change
import Fanout.Review.Human
import Fanout.Review.Process
import Fanout.Scan.Complete
import Fanout.Scan.Targets
import Fanout.Settings.Config
import Fanout.Settings.Effective
import Fanout.Settings.Root
import Fanout.Settings.View
import Fanout.Source.Alphabet
import Fanout.Source.Cursor
import Fanout.Source.Language
import Fanout.Source.Point
import Fanout.Text.Ascii
import Fanout.Text.Blank
import Fanout.Text.Hex
import Fanout.Text.Line
import Fanout.Text.Quoted
import Fanout.Text.WordClass
import Fanout.Toml.Document
import Fanout.Toml.Scalar
import Fanout.Toml.Value
import Fanout.Tree.Lowering
import Fanout.Tree.Node
import Fanout.Tree.Parse
import Fanout.Yaml.Cursor
import Fanout.Yaml.Node
import Fanout.Yaml.Scalar
import Fanout.Yaml.Token
import Fanout.Proofs.Pattern.Findings
import Fanout.Proofs.Concrete.Kept
import Fanout.Proofs.Tree.Lowering
import Fanout.Proofs.Tree.Origin
import Fanout.Proofs.Insight.LabeledLayout
import Fanout.Proofs.Tree.Depth
import Fanout.Proofs.Grammar.Callees
import Fanout.Proofs.Tree.Yield
import Fanout.Proofs.Analysis.Finish
import Fanout.Proofs.Files.Lift
import Fanout.Proofs.Scan.Order
import Fanout.Proofs.Review.Calls
import Fanout.Proofs.Scan.Agreement
import Fanout.Proofs.Review.Accounts
import Fanout.Proofs.Json.Lexing
import Fanout.Proofs.Json.Numbers
import Fanout.Proofs.Json.Parsing
import Fanout.Proofs.Json.RoundTrip
import Fanout.Proofs.Issue.Json
import Fanout.Proofs.Insight.ObjectReply
import Fanout.Proofs.Review.Comments
import Fanout.Proofs.Review.DryRun
import Fanout.Proofs.Json.Braces
import Fanout.Proofs.Report.Json
import Fanout.Proofs.Remote.Chat
import Fanout.Proofs.Bytes.Utf8
import Fanout.Proofs.Json.Cursor
import Fanout.Proofs.Json.Shape
import Fanout.Proofs.Remote.Pages
import Fanout.Proofs.Files.Places
import Fanout.Proofs.Settings.Root
import Fanout.Proofs.Scan.Targets
import Fanout.Proofs.Json.Finite
import Fanout.Proofs.Grammar.Size
import Fanout.Proofs.Analysis.Finite
import Fanout.Proofs.Concrete.Errors
import Fanout.Proofs.Concrete.Extras
import Fanout.Proofs.Pattern.Wrapping
import Fanout.Proofs.Pattern.Pairing
import Fanout.Proofs.Pattern.SourceOrder
import Fanout.Proofs.Text.Trim
import Fanout.Proofs.Insight.Figures
import Fanout.Proofs.Insight.ObjectParts
import Fanout.Proofs.Insight.LabeledItems
import Fanout.Proofs.Insight.LabeledSection
import Fanout.Proofs.Insight.LabeledTitles
import Fanout.Proofs.Bytes.Base64
import Fanout.Proofs.Remote.Content
import Fanout.Proofs.Issue.Spellings
import Fanout.Proofs.Report.Verdict
import Fanout.Proofs.Insight.LabeledReading
import Fanout.Proofs.Insight.LabeledScan
import Fanout.Proofs.Insight.LabeledLines
import Fanout.Proofs.Report.Color
import Fanout.Proofs.Decimal.Reach
import Fanout.Proofs.Analysis.Advice
import Fanout.Proofs.Impact.Exact
import Fanout.Proofs.Settings.Precedence
import Fanout.Proofs.Tree.Callbacks
import Fanout.Proofs.Report.Rows
import Fanout.Proofs.Path.Extensions
import Fanout.Proofs.Review.Eligibility
import Fanout.Proofs.Remote.Percent
import Fanout.Proofs.Remote.Addresses
