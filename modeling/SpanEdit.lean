import SpanEdit.CommandLine.Help
import SpanEdit.CommandLine.Option
import SpanEdit.CommandLine.Run
import SpanEdit.CommandLine.Settings
import SpanEdit.CommandLine.Word
import SpanEdit.Config.Basic
import SpanEdit.Config.Parse
import SpanEdit.Decimal.FloatText
import SpanEdit.Decimal.Shortest
import SpanEdit.Edit.Basic
import SpanEdit.Edit.Coverage
import SpanEdit.Edit.Pausing
import SpanEdit.Edit.Task
import SpanEdit.Eff
import SpanEdit.Fault
import SpanEdit.File.Basic
import SpanEdit.File.Fault
import SpanEdit.File.Path
import SpanEdit.Join
import SpanEdit.Label
import SpanEdit.Libraries
import SpanEdit.Log
import SpanEdit.Main
import SpanEdit.Output
import SpanEdit.Pattern.Basic
import SpanEdit.Pattern.Choice
import SpanEdit.Pattern.FindAll
import SpanEdit.Pattern.FromValues
import SpanEdit.Pattern.Literal
import SpanEdit.Pattern.Mapped
import SpanEdit.Pattern.Regex
import SpanEdit.Pattern.Run
import SpanEdit.Proofs.AnyOrder
import SpanEdit.Proofs.Arguments
import SpanEdit.Proofs.Checking
import SpanEdit.Proofs.CommandRun
import SpanEdit.Proofs.CommandWork
import SpanEdit.Proofs.Compiling
import SpanEdit.Proofs.Composite
import SpanEdit.Proofs.ConfigReading
import SpanEdit.Proofs.Containment
import SpanEdit.Proofs.Contract
import SpanEdit.Proofs.Course
import SpanEdit.Proofs.Decoding
import SpanEdit.Proofs.Encoding
import SpanEdit.Proofs.Exact
import SpanEdit.Proofs.ExactChoice
import SpanEdit.Proofs.ExactCursor
import SpanEdit.Proofs.FastPath
import SpanEdit.Proofs.Foresight
import SpanEdit.Proofs.ForesightChoice
import SpanEdit.Proofs.FullRun
import SpanEdit.Proofs.Grammar
import SpanEdit.Proofs.Laziness
import SpanEdit.Proofs.Leftmost
import SpanEdit.Proofs.Library
import SpanEdit.Proofs.Loading
import SpanEdit.Proofs.Lockstep
import SpanEdit.Proofs.MaximalRuns
import SpanEdit.Proofs.MixedChoice
import SpanEdit.Proofs.Observation
import SpanEdit.Proofs.Ordering
import SpanEdit.Proofs.Overrun
import SpanEdit.Proofs.Partition
import SpanEdit.Proofs.Pausing
import SpanEdit.Proofs.Piecewise
import SpanEdit.Proofs.PrefixCode
import SpanEdit.Proofs.Replay
import SpanEdit.Proofs.Resuming
import SpanEdit.Proofs.Rewriting
import SpanEdit.Proofs.ScansOnce
import SpanEdit.Proofs.ScriptRun
import SpanEdit.Proofs.SinglePass
import SpanEdit.Proofs.Splicing
import SpanEdit.Proofs.Stages
import SpanEdit.Proofs.Straying
import SpanEdit.Proofs.TakingTurns
import SpanEdit.Proofs.Tiling
import SpanEdit.Proofs.Totality
import SpanEdit.Proofs.Tracking
import SpanEdit.Proofs.TrackingChoice
import SpanEdit.Proofs.Tree
import SpanEdit.Proofs.Uniqueness
import SpanEdit.Proofs.Verbatim
import SpanEdit.Proofs.Walk
import SpanEdit.Regex.Basic
import SpanEdit.Regex.Class
import SpanEdit.Regex.Fault
import SpanEdit.Regex.Machine
import SpanEdit.Regex.Match
import SpanEdit.Regex.Matcher
import SpanEdit.Regex.Parser
import SpanEdit.Regex.Program
import SpanEdit.Regex.Source
import SpanEdit.Regex.Syntax
import SpanEdit.Registry
import SpanEdit.Script
import SpanEdit.ScriptFile
import SpanEdit.Segment
import SpanEdit.Separation
import SpanEdit.Showing
import SpanEdit.Testing.Directory
import SpanEdit.Testing.Editor
import SpanEdit.Testing.Factories
import SpanEdit.Testing.Function
import SpanEdit.Testing.Patterns
import SpanEdit.Testing.Predicate
import SpanEdit.Testing.World
import SpanEdit.Text.Base64
import SpanEdit.Text.Case
import SpanEdit.Text.CaseRuns
import SpanEdit.Text.Category
import SpanEdit.Text.CharSet
import SpanEdit.Text.Class
import SpanEdit.Text.Lines
import SpanEdit.Text.Numeral
import SpanEdit.Text.Quoted
import SpanEdit.Text.Script
import SpanEdit.Text.Utf8
import SpanEdit.Tokens
import SpanEdit.Value.Basic
import SpanEdit.Value.Calendar
import SpanEdit.Value.Display
import SpanEdit.Value.Equality
import SpanEdit.Value.Order
import SpanEdit.Yaml.Basic
import SpanEdit.Yaml.Construction
import SpanEdit.Yaml.Cursor
import SpanEdit.Yaml.Document
import SpanEdit.Yaml.Fault
import SpanEdit.Yaml.Layout
import SpanEdit.Yaml.Loader
import SpanEdit.Yaml.Merge
import SpanEdit.Yaml.Number
import SpanEdit.Yaml.Property
import SpanEdit.Yaml.Scalar.Block
import SpanEdit.Yaml.Scalar.Plain
import SpanEdit.Yaml.Scalar.Quoted
import SpanEdit.Yaml.Source
import SpanEdit.Yaml.Tag
import SpanEdit.Yaml.Timestamp
import SpanEdit.Yaml.Token
import SpanEdit.Yaml.Unfolding
