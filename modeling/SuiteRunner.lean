import SuiteRunner.Api.Run
import SuiteRunner.Api.Soap
import SuiteRunner.Assertion.OnJson
import SuiteRunner.Assertion.OnXml
import SuiteRunner.Assertion.Outcome
import SuiteRunner.Bridge.Answer
import SuiteRunner.Bridge.Client
import SuiteRunner.Browser.Call
import SuiteRunner.Browser.Session
import SuiteRunner.Cipher.Block
import SuiteRunner.Cipher.Field
import SuiteRunner.Cipher.Sealing
import SuiteRunner.Cipher.TextCipher
import SuiteRunner.CommandLine.Arguments
import SuiteRunner.CommandLine.Command
import SuiteRunner.CommandLine.Grid
import SuiteRunner.CommandLine.Program
import SuiteRunner.Custom.Call
import SuiteRunner.Custom.Failure
import SuiteRunner.Custom.ResultPath
import SuiteRunner.Database.Config
import SuiteRunner.Error
import SuiteRunner.Files.Path
import SuiteRunner.Files.Tree
import SuiteRunner.Http.Charset
import SuiteRunner.Http.Client
import SuiteRunner.Http.Header
import SuiteRunner.Http.Host
import SuiteRunner.Http.Message
import SuiteRunner.Http.Percent
import SuiteRunner.Http.Punycode
import SuiteRunner.Http.Url
import SuiteRunner.Http.Wire
import SuiteRunner.Json.Comparison
import SuiteRunner.Json.Decode
import SuiteRunner.Json.Reading
import SuiteRunner.Json.Render
import SuiteRunner.Json.Value
import SuiteRunner.JsonPath.Parser
import SuiteRunner.JsonPath.Query
import SuiteRunner.JsonPath.Select
import SuiteRunner.JsonPath.Token
import SuiteRunner.Locator.Basic
import SuiteRunner.Locator.Document
import SuiteRunner.Locator.Selector
import SuiteRunner.Main
import SuiteRunner.Number.Binary64
import SuiteRunner.Number.Reading
import SuiteRunner.Number.Shortest
import SuiteRunner.Outside.Environment
import SuiteRunner.Outside.Program
import SuiteRunner.Outside.Request
import SuiteRunner.PreProcess.FakeData
import SuiteRunner.PreProcess.Function
import SuiteRunner.PreProcess.Pipeline
import SuiteRunner.Regex.CharSet
import SuiteRunner.Regex.Parser
import SuiteRunner.Regex.Pattern
import SuiteRunner.Rehearsal.Custom
import SuiteRunner.Rehearsal.Pipe
import SuiteRunner.Rehearsal.Rule
import SuiteRunner.Rehearsal.Script
import SuiteRunner.Rehearsal.World
import SuiteRunner.Report.Entry
import SuiteRunner.Report.Snapshot
import SuiteRunner.Report.Summary
import SuiteRunner.Retry
import SuiteRunner.Run.Execution
import SuiteRunner.Run.Outcome
import SuiteRunner.Run.Selection
import SuiteRunner.Schema.Basic
import SuiteRunner.Schema.Dialect
import SuiteRunner.Schema.Reading
import SuiteRunner.Schema.Validation
import SuiteRunner.Settings
import SuiteRunner.Suite.Basic
import SuiteRunner.Suite.Document
import SuiteRunner.Suite.File
import SuiteRunner.Suite.Filter
import SuiteRunner.Suite.Variable
import SuiteRunner.Target
import SuiteRunner.Text.Base64
import SuiteRunner.Text.Blank
import SuiteRunner.Text.Category
import SuiteRunner.Text.Category.Table
import SuiteRunner.Text.Escaped
import SuiteRunner.Text.LetterCase
import SuiteRunner.Text.LetterCase.Table
import SuiteRunner.Text.SortedMap
import SuiteRunner.Text.Split
import SuiteRunner.Text.Utf8
import SuiteRunner.Text.Width
import SuiteRunner.Time.Calendar
import SuiteRunner.Time.Pattern
import SuiteRunner.Toml.Fault
import SuiteRunner.Toml.Reading
import SuiteRunner.Toml.Table
import SuiteRunner.Ui.Action
import SuiteRunner.Ui.Comparison
import SuiteRunner.Ui.Keyword
import SuiteRunner.Ui.Operand
import SuiteRunner.Ui.Perform
import SuiteRunner.Ui.Run
import SuiteRunner.Ui.Stage
import SuiteRunner.Ui.Table
import SuiteRunner.Variables.Document
import SuiteRunner.Variables.Registry
import SuiteRunner.Variables.Scope
import SuiteRunner.Variables.Store
import SuiteRunner.Variables.Template
import SuiteRunner.XPath.Evaluation
import SuiteRunner.XPath.Expression
import SuiteRunner.XPath.Function
import SuiteRunner.XPath.Parser
import SuiteRunner.XPath.Token
import SuiteRunner.XPath.Value
import SuiteRunner.Xml.Document
import SuiteRunner.Xml.Name
import SuiteRunner.Xml.Token
import SuiteRunner.Proofs.Outside.Transcript
import SuiteRunner.Proofs.Variables.Operations
import SuiteRunner.Proofs.Variables.Shadowing
import SuiteRunner.Proofs.Variables.Cache
import SuiteRunner.Proofs.Run.Parts
import SuiteRunner.Proofs.Ui.Skipping
import SuiteRunner.Proofs.Api.Stages
import SuiteRunner.Proofs.Api.Accounting
import SuiteRunner.Proofs.Browser.Session
import SuiteRunner.Proofs.Browser.Cursor
import SuiteRunner.Proofs.Browser.Lifecycle
import SuiteRunner.Proofs.PreProcess.Apart
import SuiteRunner.Proofs.PreProcess.Steps
import SuiteRunner.Proofs.Ui.Actions
import SuiteRunner.Proofs.Ui.Cursor
import SuiteRunner.Proofs.Ui.Lifecycle
import SuiteRunner.Proofs.Json.Decoding
import SuiteRunner.Proofs.Json.Documents
import SuiteRunner.Proofs.Locator.Pieces
import SuiteRunner.Proofs.Variables.Answers
import SuiteRunner.Proofs.Variables.Conflicts
import SuiteRunner.Proofs.Outside.InStep
import SuiteRunner.Proofs.Run.Pool
import SuiteRunner.Proofs.Run.Totals
import SuiteRunner.Proofs.Bridge.Conversation
import SuiteRunner.Proofs.Variables.Lookups
import SuiteRunner.Proofs.Variables.Writes
import SuiteRunner.Proofs.Run.Closing
import SuiteRunner.Proofs.Variables.Ownership
import SuiteRunner.Proofs.Api.Scope
import SuiteRunner.Proofs.Api.Order
import SuiteRunner.Proofs.Ui.Scope
import SuiteRunner.Proofs.Run.Privacy
import SuiteRunner.Proofs.Run.Addressing
import SuiteRunner.Proofs.Variables.Placeholders
import SuiteRunner.Proofs.Json.Values
import SuiteRunner.Proofs.Locator.Rewriting
import SuiteRunner.Proofs.Suite.Rewriting
import SuiteRunner.Proofs.Time.Stamps
import SuiteRunner.Proofs.Run.Reports
import SuiteRunner.Proofs.Ui.Retries
import SuiteRunner.Proofs.Locator.Strategies
import SuiteRunner.Proofs.Ui.Operands
import SuiteRunner.Proofs.Assertion.Integers
import SuiteRunner.Proofs.Assertion.ByValue
import SuiteRunner.Proofs.Assertion.Verdicts
import SuiteRunner.Proofs.Assertion.Kinds
import SuiteRunner.Proofs.Variables.Structure
import SuiteRunner.Proofs.Locator.Texts
import SuiteRunner.Proofs.Ui.Filling
import SuiteRunner.Proofs.Api.Storing
import SuiteRunner.Proofs.Ui.Outputs
import SuiteRunner.Proofs.Ui.Writes
import SuiteRunner.Proofs.Text.Cutting
import SuiteRunner.Proofs.Target.Addresses
import SuiteRunner.Proofs.Suite.Filters
import SuiteRunner.Proofs.Number.Order
import SuiteRunner.Proofs.Ui.Sorting
import SuiteRunner.Proofs.Ui.Counts
import SuiteRunner.Proofs.Files.Trees
import SuiteRunner.Proofs.Suite.Discovery
import SuiteRunner.Proofs.Text.Bytes
import SuiteRunner.Proofs.Cipher.TextCipher
import SuiteRunner.Proofs.Database.Settings
import SuiteRunner.Proofs.Database.ConnectionText
import SuiteRunner.Proofs.Report.Snapshots
import SuiteRunner.Proofs.Custom.ResultPaths
import SuiteRunner.Proofs.Retry.Delays
