import Transcript.Counter
import Transcript.Decimal.Binary
import Transcript.Decimal.Layout
import Transcript.Decimal.Numeral
import Transcript.Decimal.Shortest
import Transcript.Desk
import Transcript.Event
import Transcript.Event.Load
import Transcript.Failure
import Transcript.Gateway
import Transcript.Gateway.Memory
import Transcript.Identity
import Transcript.Json
import Transcript.Json.Escape
import Transcript.Json.Layout
import Transcript.Json.Payload
import Transcript.Json.Reader
import Transcript.Json.Stored
import Transcript.Json.Token
import Transcript.LogSetup
import Transcript.Message
import Transcript.Message.Amend
import Transcript.Message.Load
import Transcript.Message.Make
import Transcript.Metadata
import Transcript.Notice
import Transcript.Pool
import Transcript.Pool.Schedule
import Transcript.Pool.Script
import Transcript.Recorder
import Transcript.Request
import Transcript.Request.Load
import Transcript.Settings
import Transcript.Settings.Setup
import Transcript.Shape
import Transcript.Store.Database
import Transcript.Store.Depot
import Transcript.Store.Document
import Transcript.Store.Options
import Transcript.Store.Statements
import Transcript.Store.Table
import Transcript.Store.Writer
import Transcript.Stream
import Transcript.Tap
import Transcript.TaskPath
import Transcript.Text.Blank
import Transcript.Text.Printable
import Transcript.Text.Quoted
import Transcript.Text.Utf8
import Transcript.Timestamp
import Transcript.Validation.Checked
import Transcript.Validation.Record
import Transcript.Validation.Scalar
import Transcript.Validation.Spelling
import Transcript.Value
import Transcript.Value.Display
import Transcript.Value.Lane
import Transcript.Proofs.Pool.Lanes
import Transcript.Proofs.Pool.System
import Transcript.Proofs.Pool.History
import Transcript.Proofs.Pool.Effect
import Transcript.Proofs.Pool.Order
import Transcript.Proofs.Pool.KeyOrder
import Transcript.Proofs.Pool.Replay
import Transcript.Proofs.Pool.Shutdown
import Transcript.Proofs.Pool.Abandon
import Transcript.Proofs.Counter
import Transcript.Proofs.Pool.Accounting
import Transcript.Proofs.Pool.Endings
import Transcript.Proofs.Pool.Timely
import Transcript.Proofs.Pool.Drain
import Transcript.Proofs.Pool.Standing
import Transcript.Proofs.Store.Document
import Transcript.Proofs.Store.Table
import Transcript.Proofs.Store.Recording
import Transcript.Proofs.Store.Contents
import Transcript.Proofs.Store.Ledger
import Transcript.Proofs.Store.DocumentOrder
import Transcript.Proofs.Desk
import Transcript.Proofs.Tap.Offers
import Transcript.Proofs.Tap.Transparency
import Transcript.Proofs.Json.Grammar
import Transcript.Proofs.Json.Number
import Transcript.Proofs.Json.Writing
import Transcript.Proofs.Store.Conversion
import Transcript.Proofs.Json.Reading
import Transcript.Proofs.Json.Replay
import Transcript.Proofs.Json.KeyOrder
import Transcript.Proofs.Json.FreeForm
import Transcript.Proofs.Message.Draft
import Transcript.Proofs.Message.Loading
import Transcript.Proofs.Message.Flat
import Transcript.Proofs.Message.Made
import Transcript.Proofs.Store.Calls
import Transcript.Proofs.Store.Loading
import Transcript.Proofs.Store.Patience
import Transcript.Proofs.Store.Likeness
import Transcript.Proofs.Store.Depot
import Transcript.Proofs.Handler.Operations
import Transcript.Proofs.Handler.Serving
import Transcript.Proofs.Handler.Replay
import Transcript.Proofs.Pool.Load
import Transcript.Proofs.Pool.View
import Transcript.Proofs.Store.Reporting
import Transcript.Proofs.Store.Fates
import Transcript.Proofs.Store.AtOnce
import Transcript.Proofs.Store.Accounts
import Transcript.Proofs.Json.Texts
import Transcript.Proofs.Message.Identifier
import Transcript.Proofs.Handler.Identifiers
import Transcript.Proofs.Store.Splicing
import Transcript.Proofs.Json.Values
import Transcript.Proofs.Message.RoundTrip
import Transcript.Proofs.Pool.Service
import Transcript.Proofs.TaskPath
import Transcript.Proofs.TaskPath.Intents
import Transcript.Proofs.Message.Noted
import Transcript.Proofs.Message.Intents
import Transcript.Proofs.Store.Labels
import Transcript.Proofs.Handler.Labels
import Transcript.Proofs.Handler.Containment
import Transcript.Proofs.Json.Unambiguous
import Transcript.Proofs.Store.Stripping
import Transcript.Proofs.Json.Payload
import Transcript.Proofs.Message.Outcome
import Transcript.Proofs.Message.Turns
import Transcript.Proofs.Json.Floats
import Transcript.Proofs.Message.Events
import Transcript.Proofs.Message.Unwritable
import Transcript.Proofs.Message.Parts
import Transcript.Proofs.Json.Strict
import Transcript.Proofs.Message.Strict
import Transcript.Proofs.Json.Collapsed
import Transcript.Proofs.Message.Stored
import Transcript.Proofs.Message.Normal
import Transcript.Proofs.Decimal.Rounding
import Transcript.Proofs.Decimal.Packing
import Transcript.Proofs.Decimal.Scientific
import Transcript.Proofs.Decimal.Shortest
import Transcript.Proofs.Message.Agreement
import Transcript.Proofs.Json.Lexed
import Transcript.Proofs.Json.Accepted
import Transcript.Proofs.Validation.Decided
import Transcript.Proofs.Validation.Handed
import Transcript.Proofs.Message.Bare
import Transcript.Proofs.Message.Accepted
import Transcript.Proofs.Validation.Steady
import Transcript.Proofs.Request.Steady
import Transcript.Proofs.Event.Steady
import Transcript.Proofs.Store.Opening
import Transcript.Proofs.Settings
import Transcript.Proofs.Recorder
import Transcript.Proofs.Counter.History
import Transcript.Proofs.Pool.Emptying
