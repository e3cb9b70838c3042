import ReceiptRules.Calendar.Date
import ReceiptRules.Calendar.Reader
import ReceiptRules.Calendar.Timestamp
import ReceiptRules.Command.Basic
import ReceiptRules.Command.Completions
import ReceiptRules.Command.Environment
import ReceiptRules.Command.Event
import ReceiptRules.Command.Execution
import ReceiptRules.Command.Failure
import ReceiptRules.Command.Invocation
import ReceiptRules.Command.Level
import ReceiptRules.Command.LogFilter
import ReceiptRules.Command.Outcome
import ReceiptRules.Command.Progress
import ReceiptRules.Command.Report
import ReceiptRules.Command.Usage
import ReceiptRules.Condition.Basic
import ReceiptRules.Condition.DateComponent
import ReceiptRules.Condition.Evaluation
import ReceiptRules.Condition.HeaderPattern
import ReceiptRules.Condition.Operator
import ReceiptRules.Condition.Reader
import ReceiptRules.Condition.SpecError
import ReceiptRules.Condition.TimeOfDay
import ReceiptRules.Decimal.Basic
import ReceiptRules.Decimal.Layout
import ReceiptRules.Decimal.Shortest
import ReceiptRules.Files
import ReceiptRules.Json.Basic
import ReceiptRules.Json.Writer
import ReceiptRules.Json5.Lexer
import ReceiptRules.Json5.Literal
import ReceiptRules.Json5.Node
import ReceiptRules.Json5.Token
import ReceiptRules.Json5.Value
import ReceiptRules.Main
import ReceiptRules.Proofs.Condition.ClockText
import ReceiptRules.Proofs.Condition.Grammar
import ReceiptRules.Proofs.Condition.LeafGrammar
import ReceiptRules.Proofs.Condition.Leaves
import ReceiptRules.Proofs.Condition.RoundTrip
import ReceiptRules.Proofs.Double.ExactValue
import ReceiptRules.Proofs.Double.Rounding
import ReceiptRules.Proofs.Double.WholeNumber
import ReceiptRules.Proofs.Except
import ReceiptRules.Proofs.Json.Entries
import ReceiptRules.Proofs.Reading.Document
import ReceiptRules.Proofs.Reading.Record
import ReceiptRules.Proofs.Reading.Replacement
import ReceiptRules.Proofs.RuleFile.Agreement
import ReceiptRules.Proofs.RuleFile.Complaints
import ReceiptRules.Proofs.RuleFile.Records
import ReceiptRules.Proofs.RuleFile.Trees
import ReceiptRules.Reading.Document
import ReceiptRules.Reading.Error
import ReceiptRules.Reading.Record
import ReceiptRules.Receipt
import ReceiptRules.Receipt.Reader
import ReceiptRules.Regex.Ast
import ReceiptRules.Regex.Basic
import ReceiptRules.Regex.CharSet
import ReceiptRules.Regex.Meaning
import ReceiptRules.Regex.Names
import ReceiptRules.Regex.Parser
import ReceiptRules.Regex.Search
import ReceiptRules.Regex.Size
import ReceiptRules.Rule
import ReceiptRules.RuleFile.Examples
import ReceiptRules.RuleFile.Progress
import ReceiptRules.RuleFile.Store
import ReceiptRules.RuleFile.Verification
import ReceiptRules.Text.Blank
import ReceiptRules.Text.Category
import ReceiptRules.Text.Category.Table
import ReceiptRules.Text.EditDistance
import ReceiptRules.Text.LetterCase
import ReceiptRules.Text.LetterCase.Table
import ReceiptRules.Text.Pieces
import ReceiptRules.Text.Property
import ReceiptRules.Text.Property.Table
import ReceiptRules.Text.Quoted
import ReceiptRules.Text.RunLength
import ReceiptRules.Text.Script
import ReceiptRules.Text.Script.Table
import ReceiptRules.Proofs.Condition.FirstFault
import ReceiptRules.Proofs.Condition.WrittenEntries
import ReceiptRules.Proofs.Json5.WrittenNumber
import ReceiptRules.Proofs.Json5.WrittenString
import ReceiptRules.Proofs.Decimal.JsonText
import ReceiptRules.Proofs.Json5.NodeTokens
import ReceiptRules.Proofs.Json5.WrittenValue
import ReceiptRules.Proofs.Condition.SpecText
import ReceiptRules.Proofs.Condition.SpecParts
import ReceiptRules.Proofs.Files
import ReceiptRules.Proofs.RuleFile.SaveAndLoad
import ReceiptRules.Proofs.Condition.Evaluation
import ReceiptRules.Proofs.Condition.Fields
import ReceiptRules.Proofs.Command.ExitCodes
import ReceiptRules.Proofs.Double.Comparison
import ReceiptRules.Proofs.Condition.Sameness
import ReceiptRules.Proofs.Calendar.WrittenTimestamp
import ReceiptRules.Proofs.Json.Sorted
import ReceiptRules.Proofs.Receipt.Fields
import ReceiptRules.Proofs.Receipt.RoundTrip
import ReceiptRules.Proofs.Json.Reader
import ReceiptRules.Proofs.Json.WrittenLine
import ReceiptRules.Proofs.Command.JsonOutput
import ReceiptRules.Proofs.Files.Directories
import ReceiptRules.Proofs.RuleFile.VerifySaved
import ReceiptRules.Proofs.Command.Runs
import ReceiptRules.Proofs.Condition.ClockOrder
import ReceiptRules.Proofs.Regex.Places
import ReceiptRules.Proofs.Text.Occurrence
import ReceiptRules.Proofs.Regex.Rows
import ReceiptRules.Proofs.Regex.EscapedText
import ReceiptRules.Proofs.Condition.HeaderKey
import ReceiptRules.Proofs.Text.Trimming
import ReceiptRules.Proofs.Condition.HeaderValue
import ReceiptRules.Proofs.Condition.ClockSpelling
import ReceiptRules.Proofs.Condition.DateValue
import ReceiptRules.Proofs.Calendar.DayOfYear
import ReceiptRules.Proofs.Calendar.IsoWeek
import ReceiptRules.Proofs.Condition.DateRange
import ReceiptRules.Proofs.Calendar.ZonedTimestamp
import ReceiptRules.Proofs.Receipt.ZonedTimestamp
import ReceiptRules.Proofs.Reading.Nulls
import ReceiptRules.Proofs.Receipt.Nulls
import ReceiptRules.Proofs.Rule.Classification
import ReceiptRules.Proofs.RuleFile.Report
import ReceiptRules.Proofs.Text.Edits
import ReceiptRules.Proofs.Condition.Suggestion
import ReceiptRules.Proofs.Condition.Comparison
