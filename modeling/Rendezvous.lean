import Rendezvous.Address
import Rendezvous.Bytes
import Rendezvous.Channel
import Rendezvous.Decimal.Shortest
import Rendezvous.Decimal.Word
import Rendezvous.Envelope
import Rendezvous.Fault
import Rendezvous.Frame
import Rendezvous.Http.Api
import Rendezvous.Http.Health
import Rendezvous.Http.Message
import Rendezvous.Http.Route
import Rendezvous.Http.Wire
import Rendezvous.Json.Cursor
import Rendezvous.Json.Decoder
import Rendezvous.Json.Lexeme
import Rendezvous.Json.Printer
import Rendezvous.Json.Record
import Rendezvous.Json.Value
import Rendezvous.Limits
import Rendezvous.Log.Filter
import Rendezvous.Log.Record
import Rendezvous.Main
import Rendezvous.Network
import Rendezvous.Program
import Rendezvous.Proofs.Accounts
import Rendezvous.Proofs.Address
import Rendezvous.Proofs.Channel
import Rendezvous.Proofs.Decimal.Word
import Rendezvous.Proofs.Envelope
import Rendezvous.Proofs.Envelope.Members
import Rendezvous.Proofs.Http.Access
import Rendezvous.Proofs.Http.Ending
import Rendezvous.Proofs.Http.Identity
import Rendezvous.Proofs.Json.Grammar
import Rendezvous.Proofs.Json.Leaves
import Rendezvous.Proofs.Json.Outcome
import Rendezvous.Proofs.Json.Reading
import Rendezvous.Proofs.Json.Records
import Rendezvous.Proofs.Json.RoundTrip
import Rendezvous.Proofs.Json.Shape
import Rendezvous.Proofs.Json.Skipping
import Rendezvous.Proofs.Json.Walking
import Rendezvous.Proofs.Outlet
import Rendezvous.Proofs.Relay
import Rendezvous.Proofs.Sameness
import Rendezvous.Proofs.Service
import Rendezvous.Proofs.Session.Cache
import Rendezvous.Proofs.Session.Counting
import Rendezvous.Proofs.Session.Delivery
import Rendezvous.Proofs.Session.Direction
import Rendezvous.Proofs.Session.FirstConnect
import Rendezvous.Proofs.Session.Form
import Rendezvous.Proofs.Session.Independence
import Rendezvous.Proofs.Session.Joining
import Rendezvous.Proofs.Session.Ledger
import Rendezvous.Proofs.Session.Memory
import Rendezvous.Proofs.Session.Recovery
import Rendezvous.Proofs.Session.Side
import Rendezvous.Proofs.Session.Stage
import Rendezvous.Proofs.Session.Tracks
import Rendezvous.Proofs.Settings
import Rendezvous.Proofs.Settings.Validity
import Rendezvous.Proofs.Signaling.Activity
import Rendezvous.Proofs.Signaling.Arrival
import Rendezvous.Proofs.Signaling.Balance
import Rendezvous.Proofs.Signaling.Bookkeeping
import Rendezvous.Proofs.Signaling.Capacity
import Rendezvous.Proofs.Signaling.Creation
import Rendezvous.Proofs.Signaling.Deed
import Rendezvous.Proofs.Signaling.Displacement
import Rendezvous.Proofs.Signaling.Eviction
import Rendezvous.Proofs.Signaling.Fate
import Rendezvous.Proofs.Signaling.History
import Rendezvous.Proofs.Signaling.Isolation
import Rendezvous.Proofs.Signaling.Membership
import Rendezvous.Proofs.Signaling.Offers
import Rendezvous.Proofs.Signaling.Operation
import Rendezvous.Proofs.Signaling.Outbound
import Rendezvous.Proofs.Signaling.Ownership
import Rendezvous.Proofs.Signaling.Parting
import Rendezvous.Proofs.Signaling.Procedure
import Rendezvous.Proofs.Signaling.Reading
import Rendezvous.Proofs.Signaling.Refusal
import Rendezvous.Proofs.Signaling.Rooms
import Rendezvous.Proofs.Signaling.Staleness
import Rendezvous.Proofs.Signaling.Succession
import Rendezvous.Proofs.Signaling.ViewerClaim
import Rendezvous.Proofs.Signaling.World
import Rendezvous.Proofs.Text.ByteOrder
import Rendezvous.Proofs.WebSocket.Bridge
import Rendezvous.Proofs.WebSocket.Feed
import Rendezvous.Proofs.WebSocket.Fidelity
import Rendezvous.Proofs.WebSocket.FirstMessage
import Rendezvous.Proofs.WebSocket.Inbox
import Rendezvous.Proofs.WebSocket.Passage
import Rendezvous.Proofs.WebSocket.Script
import Rendezvous.Proofs.WebSocket.Sending
import Rendezvous.Proofs.WebSocket.Writer
import Rendezvous.Relay
import Rendezvous.Role
import Rendezvous.RoomCode
import Rendezvous.Sample
import Rendezvous.Service
import Rendezvous.Session.Live
import Rendezvous.Session.State
import Rendezvous.Settings
import Rendezvous.Signaling.Call
import Rendezvous.Signaling.Serving
import Rendezvous.Subscription
import Rendezvous.Sweep
import Rendezvous.Tally
import Rendezvous.Text.Blank
import Rendezvous.Text.Printable
import Rendezvous.Text.Quoted
import Rendezvous.WebSocket.Handshake
import Rendezvous.WebSocket.Message
import Rendezvous.WebSocket.Socket
import Rendezvous.WebSocket.Wire
