import EventSocket.Api.Basic
import EventSocket.Api.Variables
import EventSocket.Application.Basic
import EventSocket.Application.Say
import EventSocket.Bytes
import EventSocket.Channel.HangupCause
import EventSocket.Channel.State
import EventSocket.Command.Basic
import EventSocket.Command.LogLevel
import EventSocket.Command.Response
import EventSocket.Command.Sendmsg
import EventSocket.Delivery.Audience
import EventSocket.Delivery.Dispatcher
import EventSocket.Delivery.Lane
import EventSocket.Delivery.Listener
import EventSocket.Document
import EventSocket.Endpoint.Basic
import EventSocket.Endpoint.Calling
import EventSocket.Endpoint.Settling
import EventSocket.Event.Access
import EventSocket.Event.Archive
import EventSocket.Event.Basic
import EventSocket.Event.HeaderName
import EventSocket.Event.Kind
import EventSocket.Event.Plain
import EventSocket.Fault
import EventSocket.Fields
import EventSocket.Frame.Basic
import EventSocket.Frame.Buffer
import EventSocket.Frame.Decoder
import EventSocket.Line
import EventSocket.Proofs.Api.Block
import EventSocket.Proofs.Api.Originate
import EventSocket.Proofs.Api.Variables
import EventSocket.Proofs.Command.Checks
import EventSocket.Proofs.Command.Kinds
import EventSocket.Proofs.Command.ReadBack
import EventSocket.Proofs.Command.Wire
import EventSocket.Proofs.Connection.Admission
import EventSocket.Proofs.Connection.Beside
import EventSocket.Proofs.Connection.Decision
import EventSocket.Proofs.Connection.Draining
import EventSocket.Proofs.Connection.HandOver
import EventSocket.Proofs.Connection.Handshake
import EventSocket.Proofs.Connection.Inflow
import EventSocket.Proofs.Connection.Lifecycle
import EventSocket.Proofs.Connection.Moves
import EventSocket.Proofs.Connection.Outcome
import EventSocket.Proofs.Connection.Room
import EventSocket.Proofs.Connection.Routing
import EventSocket.Proofs.Connection.Secrecy
import EventSocket.Proofs.Connection.Turns
import EventSocket.Proofs.Delivery.Accounting
import EventSocket.Proofs.Delivery.Closing
import EventSocket.Proofs.Delivery.Farewell
import EventSocket.Proofs.Delivery.Going
import EventSocket.Proofs.Delivery.Handing
import EventSocket.Proofs.Delivery.Independence
import EventSocket.Proofs.Delivery.Lanes
import EventSocket.Proofs.Delivery.Moves
import EventSocket.Proofs.Delivery.Outcomes
import EventSocket.Proofs.Delivery.Registration
import EventSocket.Proofs.Endpoint.Availability
import EventSocket.Proofs.Endpoint.Carriage
import EventSocket.Proofs.Endpoint.Departure
import EventSocket.Proofs.Endpoint.Desk
import EventSocket.Proofs.Endpoint.Dispatching
import EventSocket.Proofs.Endpoint.Effects
import EventSocket.Proofs.Endpoint.Hosting
import EventSocket.Proofs.Endpoint.Latest
import EventSocket.Proofs.Endpoint.Moves
import EventSocket.Proofs.Endpoint.Scoping
import EventSocket.Proofs.Endpoint.Settling
import EventSocket.Proofs.Endpoint.Succession
import EventSocket.Proofs.Endpoint.Unheard
import EventSocket.Proofs.Event.Archive
import EventSocket.Proofs.Event.Frames
import EventSocket.Proofs.Event.Grammar
import EventSocket.Proofs.Event.Naming
import EventSocket.Proofs.Event.Reading
import EventSocket.Proofs.Event.RoundTrip
import EventSocket.Proofs.Fields
import EventSocket.Proofs.Frame.Admission
import EventSocket.Proofs.Frame.Buffer
import EventSocket.Proofs.Frame.Draining
import EventSocket.Proofs.Frame.Framing
import EventSocket.Proofs.Frame.Headers
import EventSocket.Proofs.Frame.Holding
import EventSocket.Proofs.Frame.Length
import EventSocket.Proofs.Frame.Lines
import EventSocket.Proofs.Frame.RoundTrip
import EventSocket.Proofs.Frame.Scanning
import EventSocket.Proofs.Frame.Schedule
import EventSocket.Proofs.Frame.Search
import EventSocket.Proofs.Frame.Segments
import EventSocket.Proofs.Frame.Written
import EventSocket.Proofs.Session.Abandonment
import EventSocket.Proofs.Session.Behind
import EventSocket.Proofs.Session.Causes
import EventSocket.Proofs.Session.Closings
import EventSocket.Proofs.Session.Coherence
import EventSocket.Proofs.Session.Conservation
import EventSocket.Proofs.Session.Correlation
import EventSocket.Proofs.Session.Deadline
import EventSocket.Proofs.Session.Dispatching
import EventSocket.Proofs.Session.Effects
import EventSocket.Proofs.Session.Ending
import EventSocket.Proofs.Session.Leaving
import EventSocket.Proofs.Session.Moves
import EventSocket.Proofs.Session.OwnStream
import EventSocket.Proofs.Session.Preservation
import EventSocket.Proofs.Session.Reach
import EventSocket.Proofs.Session.Refusal
import EventSocket.Proofs.Session.Rejection
import EventSocket.Proofs.Session.Settlement
import EventSocket.Proofs.Session.Slots
import EventSocket.Proofs.Session.Stage
import EventSocket.Proofs.Session.Unheard
import EventSocket.Proofs.Session.Verdict
import EventSocket.Proofs.Term
import EventSocket.Proofs.Text.Bytes
import EventSocket.Proofs.Text.Lines
import EventSocket.Proofs.Text.Numerals
import EventSocket.Proofs.Text.Percent
import EventSocket.Proofs.Text.Trimming
import EventSocket.Session.Basic
import EventSocket.Session.Calling
import EventSocket.Session.Connection
import EventSocket.Session.Opening
import EventSocket.Session.Pending
import EventSocket.Session.Reading
import EventSocket.Session.Request
import EventSocket.Session.Settling
import EventSocket.Session.State
import EventSocket.Settings
import EventSocket.Span
import EventSocket.Term
import EventSocket.Text.Blank
import EventSocket.Text.Hexadecimal
import EventSocket.Text.Hidden
import EventSocket.Text.Letters
import EventSocket.Text.Lines
import EventSocket.Text.Numeral
import EventSocket.Text.Percent
import EventSocket.Text.Quoted
import EventSocket.Transport
import EventSocket.Uuid
