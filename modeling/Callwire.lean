import Callwire.Bytes
import Callwire.Client.Calls
import Callwire.Client.Connection
import Callwire.Client.Listeners
import Callwire.Client.Request
import Callwire.Client.Subscribers
import Callwire.Client.Sweep
import Callwire.Frame
import Callwire.Json.Fault
import Callwire.Json.Numeral
import Callwire.Json.Reader
import Callwire.Json.Record
import Callwire.Json.Skip
import Callwire.Json.Text
import Callwire.Json.Writer
import Callwire.Layout.Attribute
import Callwire.Layout.Comment
import Callwire.Layout.Doc
import Callwire.Layout.Expression
import Callwire.Layout.File
import Callwire.Layout.Item
import Callwire.Layout.MacroText
import Callwire.Layout.Page
import Callwire.Layout.Pattern
import Callwire.Layout.Type
import Callwire.Number.Binary64
import Callwire.Number.Shortest
import Callwire.Payload.Basic
import Callwire.Payload.Codec
import Callwire.Proofs.Client.Changes
import Callwire.Proofs.Client.Entries
import Callwire.Proofs.Client.Fate
import Callwire.Proofs.Client.Numbering
import Callwire.Proofs.Client.Operations
import Callwire.Proofs.Client.Outcome
import Callwire.Proofs.Frame.Answers
import Callwire.Proofs.Frame.Named
import Callwire.Proofs.Frame.Requests
import Callwire.Proofs.Frame.Sides
import Callwire.Proofs.Payload.Failures
import Callwire.Proofs.Protobuf.Reading
import Callwire.Proofs.Server.Changes
import Callwire.Proofs.Server.Executions
import Callwire.Proofs.Session.Asking
import Callwire.Proofs.Session.Hearing
import Callwire.Proofs.Session.Invariant
import Callwire.Proofs.Session.Linked
import Callwire.Proofs.Session.Matching
import Callwire.Proofs.Session.Outcomes
import Callwire.Proofs.Session.Serving
import Callwire.Proofs.Text.Utf8
import Callwire.Proofs.Transport.Framing
import Callwire.Proofs.Transport.Order
import Callwire.Proofs.Transport.Reader
import Callwire.Proofs.Transport.Reassembly
import Callwire.Proofs.Transport.Results
import Callwire.Protobuf.Field
import Callwire.Protobuf.Varint
import Callwire.Sample.Echo
import Callwire.Sample.EchoClient
import Callwire.Sample.Hub
import Callwire.Sample.Payloads
import Callwire.Sample.Ticker
import Callwire.Schema.File
import Callwire.Schema.Imports
import Callwire.Schema.Service
import Callwire.Schema.Trait
import Callwire.Server.Connection
import Callwire.Server.Dispatch
import Callwire.Server.MethodTable
import Callwire.Server.Pointer
import Callwire.Server.Recording
import Callwire.Server.Values
import Callwire.Simulation.Script
import Callwire.Simulation.World
import Callwire.Source.Attribute
import Callwire.Source.Diagnosis
import Callwire.Source.Expression
import Callwire.Source.ExpressionReader
import Callwire.Source.Grammar
import Callwire.Source.Item
import Callwire.Source.ItemReader
import Callwire.Source.Keyword
import Callwire.Source.Lexer
import Callwire.Source.Pattern
import Callwire.Source.PatternReader
import Callwire.Source.Reader
import Callwire.Source.Reading
import Callwire.Source.StatementReader
import Callwire.Source.Token
import Callwire.Source.Type
import Callwire.Source.TypeFault
import Callwire.Source.TypeReader
import Callwire.Stub.Client
import Callwire.Stub.Code
import Callwire.Stub.CodeText
import Callwire.Stub.Expand
import Callwire.Stub.Items
import Callwire.Stub.Method
import Callwire.Stub.Server
import Callwire.Stub.Sources
import Callwire.TaskEnd
import Callwire.Text.Blank
import Callwire.Text.Case
import Callwire.Text.Extending
import Callwire.Text.Name
import Callwire.Text.Printable
import Callwire.Text.Quoted
import Callwire.Text.Runs
import Callwire.Text.Word
import Callwire.Text.Words
import Callwire.Trace
import Callwire.Transport.Fault
import Callwire.Transport.Link
import Callwire.Transport.Memory
import Callwire.Transport.Stream
import Callwire.Proofs.Lifetime.Life
import Callwire.Proofs.Lifetime.Waiting
import Callwire.Proofs.Lifetime.Invariant
import Callwire.Proofs.Lifetime.Settled
import Callwire.Proofs.Lifetime.Ending
import Callwire.Proofs.Lifetime.Deadlines
import Callwire.Proofs.Lifetime.Sweeping
import Callwire.Proofs.Transport.Attended
import Callwire.Proofs.Server.Standing
import Callwire.Proofs.Server.Life
import Callwire.Proofs.Server.Closing
import Callwire.Proofs.Server.Handling
import Callwire.Proofs.Server.Answering
import Callwire.Proofs.Server.Sending
import Callwire.Proofs.Transport.Ends
import Callwire.Proofs.Transport.Deeds
import Callwire.Proofs.Transport.Exchange
import Callwire.Proofs.Transport.Contents
import Callwire.Proofs.Transport.Refusals
import Callwire.Proofs.Transport.Lengths
import Callwire.Proofs.Lifetime.Handing
import Callwire.Proofs.Lifetime.Renaming
import Callwire.Proofs.Lifetime.Omission
import Callwire.Proofs.Lifetime.Retries
import Callwire.Proofs.Server.Delivery
import Callwire.Proofs.Client.Events
import Callwire.Proofs.Push.Registrations
import Callwire.Proofs.Push.Subscriptions
import Callwire.Proofs.Push.Calls
import Callwire.Proofs.Push.Meanwhile
import Callwire.Proofs.Push.Broadcast
import Callwire.Proofs.Push.Flow
import Callwire.Proofs.Push.FanOut
import Callwire.Proofs.Keys
import Callwire.Proofs.Attempts
import Callwire.Proofs.Json.Texts
import Callwire.Proofs.Json.Counts
import Callwire.Proofs.Json.Records
import Callwire.Proofs.Payload.Reading
import Callwire.Proofs.Text.Solid
import Callwire.Proofs.Text.Capitals
import Callwire.Proofs.Source.Names
import Callwire.Proofs.Source.Types
import Callwire.Proofs.Schema.Definers
import Callwire.Proofs.Schema.Traits
import Callwire.Proofs.Stub.Methods
import Callwire.Proofs.Stub.Outlines
import Callwire.Proofs.Stub.Scopes
import Callwire.Proofs.Stub.Files
import Callwire.Proofs.Stub.Signatures
import Callwire.Proofs.Stub.Imported
import Callwire.Proofs.Server.MethodTables
import Callwire.Proofs.Source.Lookups
import Callwire.Proofs.Stub.Resolution
import Callwire.Proofs.Stub.Uses
import Callwire.Proofs.Stub.Values
import Callwire.Proofs.Stub.Clear
import Callwire.Proofs.Stub.Meaning
import Callwire.Proofs.Stub.Phrases
import Callwire.Proofs.Stub.Parts
import Callwire.Proofs.Stub.Bodies
import Callwire.Proofs.Stub.Served
import Callwire.Proofs.Stub.Agreement
import Callwire.Proofs.Server.Storing
import Callwire.Proofs.Schema.Additions
