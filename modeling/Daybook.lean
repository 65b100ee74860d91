import Daybook.Calendar.Date
import Daybook.Calendar.Duration
import Daybook.Calendar.Event
import Daybook.Calendar.EventList
import Daybook.Calendar.EventReader
import Daybook.Calendar.Instant
import Daybook.Calendar.Progress
import Daybook.Calendar.Reader
import Daybook.Calendar.Text
import Daybook.Command.Help
import Daybook.Command.Request
import Daybook.Command.Run
import Daybook.Command.Switches
import Daybook.Error
import Daybook.Files.Disk
import Daybook.Files.Tree
import Daybook.Json.Cursor
import Daybook.Json.Excerpt
import Daybook.Json.Fault
import Daybook.Json.Printer
import Daybook.Json.Reader
import Daybook.Json.Scalar
import Daybook.Json.Value
import Daybook.Limits
import Daybook.Link.Anchor
import Daybook.Link.Host
import Daybook.Main
import Daybook.Markup.Html
import Daybook.Markup.Node
import Daybook.NameMap
import Daybook.Number.Binary64
import Daybook.Number.Power
import Daybook.Number.Shortest
import Daybook.Number.Text
import Daybook.Pattern.CharSet
import Daybook.Pattern.Expr
import Daybook.Pattern.FixedText
import Daybook.Pattern.Literal
import Daybook.Pattern.Match
import Daybook.Pattern.Named
import Daybook.Pattern.Program
import Daybook.Pattern.Reader
import Daybook.Pattern.Regex
import Daybook.Pattern.Resolve
import Daybook.Pattern.Unicode.Category
import Daybook.Pattern.Unicode.Folding
import Daybook.Pattern.Unicode.Property
import Daybook.Pattern.Unicode.Script
import Daybook.Pattern.Unicode.Table
import Daybook.Percent
import Daybook.Policy
import Daybook.Proofs.Calendar.Chronology
import Daybook.Proofs.Calendar.Days
import Daybook.Proofs.Calendar.Durations
import Daybook.Proofs.Calendar.Elapsed
import Daybook.Proofs.Calendar.Feeds
import Daybook.Proofs.Calendar.Instants
import Daybook.Proofs.Calendar.Listing
import Daybook.Proofs.Calendar.Progress
import Daybook.Proofs.Calendar.Schedule
import Daybook.Proofs.Command.Agreement
import Daybook.Proofs.Command.Asking
import Daybook.Proofs.Command.Loading
import Daybook.Proofs.Command.Spelling
import Daybook.Proofs.Failure
import Daybook.Proofs.Files.Writing
import Daybook.Proofs.Json.Containers
import Daybook.Proofs.Json.Excerpts
import Daybook.Proofs.Json.Floats
import Daybook.Proofs.Json.Gives
import Daybook.Proofs.Json.Numbers
import Daybook.Proofs.Json.Numerals
import Daybook.Proofs.Json.Places
import Daybook.Proofs.Json.Pointing
import Daybook.Proofs.Json.Reads
import Daybook.Proofs.Json.Stays
import Daybook.Proofs.Json.Texts
import Daybook.Proofs.Json.Values
import Daybook.Proofs.Link.FirstUrl
import Daybook.Proofs.Link.Hosts
import Daybook.Proofs.Link.Links
import Daybook.Proofs.Link.Outline
import Daybook.Proofs.Link.Passes
import Daybook.Proofs.Link.Undo
import Daybook.Proofs.Link.WhiteSpace
import Daybook.Proofs.Link.Wrapper
import Daybook.Proofs.Markup.HtmlReader
import Daybook.Proofs.Markup.NormalForm
import Daybook.Proofs.Markup.Outline
import Daybook.Proofs.Markup.RoundTrip
import Daybook.Proofs.Markup.Subnodes
import Daybook.Proofs.Number.Decimals
import Daybook.Proofs.Number.Digits
import Daybook.Proofs.Number.Exact
import Daybook.Proofs.Number.Intervals
import Daybook.Proofs.Number.Layout
import Daybook.Proofs.Number.Rounding
import Daybook.Proofs.Number.Shortest
import Daybook.Proofs.Number.Values
import Daybook.Proofs.Number.Whole
import Daybook.Proofs.Pattern.Code
import Daybook.Proofs.Pattern.Enumeration
import Daybook.Proofs.Pattern.Grammar
import Daybook.Proofs.Pattern.Numbering
import Daybook.Proofs.Pattern.Search
import Daybook.Proofs.Pattern.Slashes
import Daybook.Proofs.Pattern.Threads
import Daybook.Proofs.Percent
import Daybook.Proofs.Replace.Gaps
import Daybook.Proofs.Replace.OnePass
import Daybook.Proofs.Replace.References
import Daybook.Proofs.Replace.Scan
import Daybook.Proofs.Replace.Substitution
import Daybook.Proofs.Script.Direct
import Daybook.Proofs.Script.Grammar
import Daybook.Proofs.Script.Interpreter
import Daybook.Proofs.Script.NumberText
import Daybook.Proofs.Script.Outline
import Daybook.Proofs.Script.Places
import Daybook.Proofs.Script.PlainText
import Daybook.Proofs.Script.Registration
import Daybook.Proofs.Script.Visited
import Daybook.Proofs.Script.Wrapper
import Daybook.Proofs.Settings.FeedUrl
import Daybook.Proofs.Shader.Cache
import Daybook.Proofs.Shader.Calls
import Daybook.Proofs.Shader.Levels
import Daybook.Proofs.StableSort
import Daybook.Proofs.Success
import Daybook.Proofs.Text.Boundaries
import Daybook.Proofs.Text.Entities
import Daybook.Proofs.Text.Lines
import Daybook.Proofs.Text.Offsets
import Daybook.Proofs.View.Acceptance
import Daybook.Proofs.View.Links
import Daybook.Proofs.View.Locality
import Daybook.Proofs.View.Meaning
import Daybook.Proofs.View.Refusal
import Daybook.Proofs.View.RoundTrip
import Daybook.Proofs.View.Settings
import Daybook.Proofs.View.Structure
import Daybook.Proofs.View.Unlinked
import Daybook.Proofs.View.Wrappers
import Daybook.Replace.Rule
import Daybook.Replace.Template
import Daybook.Script.Builtin
import Daybook.Script.Evaluate
import Daybook.Script.NumberText
import Daybook.Script.Operator
import Daybook.Script.Token
import Daybook.Script.Variable
import Daybook.Settings.Basic
import Daybook.Settings.Text
import Daybook.Shader.Basic
import Daybook.Shader.Cache
import Daybook.Text.Blank
import Daybook.Text.Bytes
import Daybook.Text.Entity
import Daybook.Text.Quoted
import Daybook.Timetable
import Daybook.Toml.Document
import Daybook.Toml.Reader
import Daybook.Toml.Text
import Daybook.Toml.Value
import Daybook.View.Compiled
import Daybook.View.Definition
import Daybook.View.DefinitionText
import Daybook.View.Shape
