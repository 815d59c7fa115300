import Keyscan.Text.Blank
import Keyscan.Text.Unprintable
import Keyscan.Text.Quoted
import Keyscan.Text.Utf8
import Keyscan.Text.Base64
import Keyscan.Digest.Sha256
import Keyscan.SortedMap
import Keyscan.Number.Rounding
import Keyscan.Number.Binary
import Keyscan.Number.Shortest
import Keyscan.Number.Literal
import Keyscan.Number.Decimal
import Keyscan.Time.Calendar
import Keyscan.Time.Instant
import Keyscan.Time.Iso8601
import Keyscan.Uuid
import Keyscan.Json.Basic
import Keyscan.Json.Printer
import Keyscan.Json.Reader
import Keyscan.Json.Shape
import Keyscan.Json.Skipping
import Keyscan.Json.Selection
import Keyscan.Json.Decoding
import Keyscan.Attribute.Basic
import Keyscan.Attribute.Wire
import Keyscan.Record
import Keyscan.Scalar.Kind
import Keyscan.Scalar.Value
import Keyscan.Scalar.Conversion
import Keyscan.Scalar.Codec
import Keyscan.Row
import Keyscan.Mapping.Basic
import Keyscan.Mapping.Wire
import Keyscan.Mapping.Registry
import Keyscan.Query.Expression
import Keyscan.Query.Error
import Keyscan.Query.Model
import Keyscan.Query.Translation
import Keyscan.Plan.Basic
import Keyscan.Plan.Lowering
import Keyscan.Plan.Materializer
import Keyscan.Statement
import Keyscan.Compiled.Basic
import Keyscan.Compiled.Cache
import Keyscan.Compiled.Explanation
import Keyscan.Store.Protocol
import Keyscan.Store.Token
import Keyscan.Store.Memory
import Keyscan.Store.Script
import Keyscan.Diagnostics.Event
import Keyscan.Diagnostics.Log
import Keyscan.Diagnostics.Metrics
import Keyscan.Diagnostics.Journal
import Keyscan.Execution.Error
import Keyscan.Execution.ResumeToken
import Keyscan.Execution.Signal
import Keyscan.Execution.Strategy
import Keyscan.Execution.Cursor
import Keyscan.Execution.Advance
import Keyscan.Config
import Keyscan.Error
import Keyscan.Provider
import Keyscan.CommandLine.Arguments
import Keyscan.CommandLine.Help
import Keyscan.CommandLine.Run
import Keyscan.Main
import Keyscan.Proofs.Text.Base64
import Keyscan.Proofs.Json.Texts
import Keyscan.Proofs.Number.Digits
import Keyscan.Proofs.Store.Token
import Keyscan.Proofs.Time.Calendar
import Keyscan.Proofs.Time.Iso8601
import Keyscan.Proofs.Statement
import Keyscan.Proofs.Mapping
import Keyscan.Proofs.Mapping.Registry
import Keyscan.Proofs.Query.Key
import Keyscan.Proofs.Query.Translation
import Keyscan.Proofs.Scalar.Codec
import Keyscan.Proofs.Materialization
import Keyscan.Proofs.Compiled.Compilation
import Keyscan.Proofs.Plan.Lowering
import Keyscan.Proofs.Plan.Meaning
import Keyscan.Proofs.Compiled.Cache
import Keyscan.Proofs.Compiled.Bookkeeping
import Keyscan.Proofs.Store.Memory
import Keyscan.Proofs.Json.Values
import Keyscan.Proofs.SortedMap
import Keyscan.Proofs.Text.PaddedBase64
import Keyscan.Proofs.Text.UrlSafeBase64
import Keyscan.Proofs.Attribute.Wire
import Keyscan.Proofs.Json.Trees
import Keyscan.Proofs.Attribute.Format
import Keyscan.Proofs.Store.Paging
import Keyscan.Proofs.Provider.Configured
import Keyscan.Proofs.Execution.ResumeToken
import Keyscan.Proofs.Execution.Recording
import Keyscan.Proofs.Execution.Moves
import Keyscan.Proofs.Execution.Runs
import Keyscan.Proofs.Execution.Underway
import Keyscan.Proofs.Execution.Delivery
import Keyscan.Proofs.Execution.Requests
import Keyscan.Proofs.Execution.Failures
import Keyscan.Proofs.Execution.Retries
import Keyscan.Proofs.Execution.Timing
import Keyscan.Proofs.Execution.Kept
import Keyscan.Proofs.Execution.Cancellation
import Keyscan.Proofs.Execution.Answers
import Keyscan.Proofs.Execution.Stops
import Keyscan.Proofs.Execution.TableScan
import Keyscan.Proofs.Execution.RowTable
import Keyscan.Proofs.Execution.RowDrain
import Keyscan.Proofs.Execution.Received
import Keyscan.Proofs.Execution.MappedScan
import Keyscan.Proofs.Execution.Resumption
import Keyscan.Proofs.Provider.Requests
import Keyscan.Proofs.Provider.Declared
import Keyscan.Proofs.Number.Decimal
import Keyscan.Proofs.Scalar.Exact
import Keyscan.Proofs.Statement.Language
import Keyscan.Proofs.Compiled.Bindings
import Keyscan.Proofs.Query.Acceptance
import Keyscan.Proofs.Provider.Entries
import Keyscan.Proofs.Execution.Turns
import Keyscan.Proofs.Execution.Sharing
import Keyscan.Proofs.Provider.Session
import Keyscan.Proofs.Diagnostics
import Keyscan.Proofs.Execution.Consumers
import Keyscan.Proofs.Execution.Accounts
import Keyscan.Proofs.Provider.Balance
import Keyscan.Proofs.Execution.Repetition
import Keyscan.Proofs.Mapping.Cache
import Keyscan.Proofs.Mapping.Declarations
import Keyscan.Proofs.Scalar.Reading
import Keyscan.Proofs.Compiled.Typing
import Keyscan.Proofs.Number.Integers
import Keyscan.Proofs.Scalar.Integers
import Keyscan.Proofs.Text.Order
import Keyscan.Proofs.Json.Lines
import Keyscan.Proofs.Diagnostics.Log
import Keyscan.Proofs.Json.Structures
import Keyscan.Proofs.Mapping.Wire
import Keyscan.Proofs.Config
import Keyscan.Proofs.Execution.Sent
import Keyscan.Proofs.Provider.PageSizes
import Keyscan.Proofs.Time.Span
import Keyscan.Proofs.Execution.Delays
